import KeyPath.Proofs.Pointwise
import KeyPath.Proofs.Segment.JsonText

/-!
# The JSON shape of paths

Exactly two shapes of JSON values are paths: an object that has the words and the private flag
under their names, each of them once, and an array of just the two.  The other members of the
object may have any values and be repeated, but their names have to be texts: escapes can spell a
name with half of a surrogate pair in it, and such a name is no text.  What is written for a path
has the first shape, so it is read back whole.
-/

namespace KeyPath

open Json

namespace Path

variable {p : Path} {segments : List Segment} {items : List Value} {v : Value}
  {name : List UInt16} {members others extra : List (List UInt16 × Value)}

/-- The value is that of the one member with the name. -/
def OnlyMember (name : List UInt16) (v : Value) (members : List (List UInt16 × Value)) : Prop :=
  ∃ before after, members = before ++ (name, v) :: after ∧ ∀ m ∈ before ++ after, m.1 ≠ name

theorem filter_eq_singleton_iff :
    members.filter (·.1 == name) = [(name, v)] ↔ OnlyMember name v members := by
  constructor
  · intro only
    obtain ⟨before, after, rfl, noneBefore, -, noneAfter⟩ := List.filter_eq_cons_iff.mp only
    refine ⟨before, after, rfl, fun m member => ?_⟩
    rcases List.mem_append.mp member with early | late
    · simpa using noneBefore m early
    · simpa using List.filter_eq_nil_iff.mp noneAfter m late
  · rintro ⟨before, after, rfl, noOther⟩
    have none {part : List (List UInt16 × Value)} (inside : part ⊆ before ++ after) :
        part.filter (·.1 == name) = [] :=
      List.filter_eq_nil_iff.mpr fun m member => by simpa using noOther m (inside member)
    rw [List.filter_append, List.filter_cons, if_pos (beq_self_eq_true name),
      none (List.subset_append_left before after), none (List.subset_append_right before after),
      List.nil_append]

theorem member?_eq_some_iff : member? name members = some v ↔ OnlyMember name v members := by
  rw [← filter_eq_singleton_iff, member?]
  constructor
  · intro found
    split at found
    · next key _ only =>
      have named : key == name := by
        have member : (key, _) ∈ members.filter (·.1 == name) := only ▸ List.mem_singleton_self _
        exact (List.mem_filter.mp member).2
      cases found
      rw [only, eq_of_beq named]
    · cases found
  · intro only
    rw [only]

/-- Neither the order of members nor members with other names matter. -/
theorem onlyMember_of_perm (same : others.Perm (members ++ extra))
    (apart : ∀ m ∈ extra, m.1 ≠ name) : OnlyMember name v others ↔ OnlyMember name v members := by
  have noExtra : extra.filter (·.1 == name) = [] :=
    List.filter_eq_nil_iff.mpr fun m member => by simpa using apart m member
  have perm := same.filter (·.1 == name)
  rw [List.filter_append, noExtra, List.append_nil] at perm
  rw [← filter_eq_singleton_iff, ← filter_eq_singleton_iff]
  exact ⟨fun only => List.perm_singleton.mp (only ▸ perm.symm),
    fun only => List.perm_singleton.mp (only ▸ perm)⟩

/-- The value has the shape of a path with the numbers and the flag. -/
inductive Shape (numbers : List Value) (flag : Bool) : Value → Prop where
  /-- Other members may stand in any place, as long as all names are texts. -/
  | object {members : List (List UInt16 × Value)}
      (texts : ∀ m ∈ members, ∃ text, units text = m.1)
      (segments : OnlyMember segmentsName (.array numbers) members)
      (kind : OnlyMember privateName (.bool flag) members) : Shape numbers flag (.object members)
  | array : Shape numbers flag (.array [.array numbers, .bool flag])

theorem segmentsOfJson?_eq_some_iff :
    segmentsOfJson? v = some segments ↔
      ∃ numbers, v = .array numbers ∧ List.Forall₂ Segment.IsNumber segments numbers := by
  cases v <;> simp [segmentsOfJson?, mapM_eq_some_iff, Segment.ofJson?_eq_some_iff]

theorem flagOfJson?_eq_some_iff {flag : Bool} : flagOfJson? v = some flag ↔ v = .bool flag := by
  cases v <;> simp [flagOfJson?]

theorem ofParts?_eq_some_iff {flag : Value} :
    ofParts? v flag = some p ↔
      ∃ numbers, v = .array numbers ∧ flag = .bool p.isPrivate ∧
        List.Forall₂ Segment.IsNumber p.segments numbers := by
  constructor
  · intro read
    obtain ⟨segments, found, rest⟩ := Option.bind_eq_some_iff.mp read
    obtain ⟨b, known, last⟩ := Option.bind_eq_some_iff.mp rest
    cases last
    obtain ⟨numbers, rfl, all⟩ := segmentsOfJson?_eq_some_iff.mp found
    obtain rfl := flagOfJson?_eq_some_iff.mp known
    exact ⟨numbers, rfl, by rw [isPrivate, KeyKind.isPrivate_ofFlag], all⟩
  · rintro ⟨numbers, rfl, rfl, all⟩
    have found := segmentsOfJson?_eq_some_iff.mpr ⟨numbers, rfl, all⟩
    simp [ofParts?, found, flagOfJson?, isPrivate]

theorem ofJson?_object_eq_some_iff :
    ofJson? (.object members) = some p ↔
      (∀ m ∈ members, ∃ text, units text = m.1) ∧
        ∃ v flag, OnlyMember segmentsName v members ∧ OnlyMember privateName flag members ∧
          ofParts? v flag = some p := by
  have texts : members.all (isPaired ·.1) = true ↔ ∀ m ∈ members, ∃ text, units text = m.1 := by
    simp only [List.all_eq_true, isPaired_iff]
  rw [ofJson?, ← texts]
  by_cases all : members.all (isPaired ·.1) = true
  · simp only [← member?_eq_some_iff, all, if_true, true_and]
    cases member? segmentsName members <;> cases member? privateName members <;> simp
  · simp [all]

/-- A path is read from the values of its shapes, and from no others. -/
theorem ofJson?_eq_some_iff :
    ofJson? v = some p ↔
      ∃ numbers, Shape numbers p.isPrivate v ∧
        List.Forall₂ Segment.IsNumber p.segments numbers := by
  constructor
  · intro read
    cases v with
    | object members =>
      obtain ⟨texts, v, flag, segments, kind, parts⟩ := ofJson?_object_eq_some_iff.mp read
      obtain ⟨numbers, rfl, rfl, all⟩ := ofParts?_eq_some_iff.mp parts
      exact ⟨numbers, .object texts segments kind, all⟩
    | array items =>
      match items with
      | [v, flag] =>
        obtain ⟨numbers, rfl, rfl, all⟩ := ofParts?_eq_some_iff.mp read
        exact ⟨numbers, .array, all⟩
      | [] => cases read
      | [_] => cases read
      | _ :: _ :: _ :: _ => cases read
    | _ => cases read
  · rintro ⟨numbers, shape, all⟩
    have parts := ofParts?_eq_some_iff.mpr ⟨numbers, rfl, rfl, all⟩
    cases shape with
    | object texts segments kind =>
      exact ofJson?_object_eq_some_iff.mpr ⟨texts, _, _, segments, kind, parts⟩
    | array => exact parts

theorem ofJsonText?_of_spaced {s : String} (spaced : Spaced v.tokens s.toList) :
    ofJsonText? s = ofJson? v := by
  rw [ofJsonText?, Value.read?_eq_some_iff.mpr spaced, Option.bind_some]

theorem exists_ofJson?_eq_some_iff :
    (∃ p, ofJson? v = some p) ↔
      ∃ numbers flag, Shape numbers flag v ∧ ∀ n ∈ numbers, Segment.Fits n := by
  simp only [ofJson?_eq_some_iff, Segment.fits_iff, ← exists_forall₂_iff]
  constructor
  · rintro ⟨p, numbers, shape, all⟩
    exact ⟨numbers, p.isPrivate, shape, p.segments, all⟩
  · rintro ⟨numbers, flag, shape, segments, all⟩
    exact ⟨⟨.ofFlag flag, segments⟩, numbers, by simpa [isPrivate] using shape, all⟩

/-- Members in another order, and more members with other names, do not change what is read. -/
theorem ofJson?_of_perm (same : others.Perm (members ++ extra))
    (apart : ∀ m ∈ extra, (∃ text, units text = m.1) ∧ m.1 ≠ segmentsName ∧ m.1 ≠ privateName) :
    ofJson? (.object others) = ofJson? (.object members) := by
  have texts : (∀ m ∈ others, ∃ text, units text = m.1) ↔
      ∀ m ∈ members, ∃ text, units text = m.1 := by
    constructor
    · intro all m member
      exact all m (same.mem_iff.mpr (List.mem_append_left extra member))
    · intro all m member
      rcases List.mem_append.mp (same.mem_iff.mp member) with inside | more
      · exact all m inside
      · exact (apart m more).1
  apply Option.ext
  intro p
  simp only [ofJson?_object_eq_some_iff, texts,
    onlyMember_of_perm same fun m more => (apart m more).2.1,
    onlyMember_of_perm same fun m more => (apart m more).2.2]

theorem number_of_mem_tokens {spelling : List Char}
    (member : Token.number spelling ∈ p.toJson.tokens) : Number spelling := by
  have inside : Token.number spelling ∈ itemTokens (p.segments.map Segment.toJson) := by
    simpa [toJson, Value.tokens, memberTokens, laterMemberTokens] using member
  obtain ⟨v, among, own⟩ := mem_tokens_of_mem_itemTokens inside
  obtain ⟨s, -, rfl⟩ := List.mem_map.mp among
  cases List.mem_singleton.mp own
  exact .of_whole (whole_digits _)

/-- A path is read back from its own JSON text. -/
@[simp] theorem ofJsonText?_toJsonText (p : Path) : ofJsonText? p.toJsonText = some p := by
  have spaced := Value.spaced_text fun _ member => number_of_mem_tokens (p := p) member
  rw [toJsonText, ofJsonText?_of_spaced spaced, ofJson?_toJson]

/-- A path is read back from its own JSON text.  A text is read as a path exactly when it spells a
value of the shape with numbers that fit, and gives these numbers and the flag; so the order of the
members and more members with other names do not matter. -/
theorem json_shape_exact :
    (∀ p : Path, ofJsonText? p.toJsonText = some p) ∧
    (∀ (v : Value) (s : String), Spaced v.tokens s.toList →
      ((∃ p, ofJsonText? s = some p) ↔
        ∃ numbers flag, Shape numbers flag v ∧ ∀ n ∈ numbers, Segment.Fits n) ∧
      ∀ p, ofJsonText? s = some p ↔
        ∃ numbers, Shape numbers p.isPrivate v ∧
          List.Forall₂ Segment.IsNumber p.segments numbers) ∧
    (∀ (members others extra : List (List UInt16 × Value)) (s t : String),
      Spaced (Value.object members).tokens s.toList →
      Spaced (Value.object others).tokens t.toList →
      others.Perm (members ++ extra) →
      (∀ m ∈ extra, (∃ text, units text = m.1) ∧ m.1 ≠ segmentsName ∧ m.1 ≠ privateName) →
      ofJsonText? t = ofJsonText? s) := by
  refine ⟨ofJsonText?_toJsonText, ?_, ?_⟩
  · intro v s spaced
    rw [ofJsonText?_of_spaced spaced]
    exact ⟨exists_ofJson?_eq_some_iff, fun p => ofJson?_eq_some_iff⟩
  · intro members others extra s t spaced spacedOthers same apart
    rw [ofJsonText?_of_spaced spaced, ofJsonText?_of_spaced spacedOthers,
      ofJson?_of_perm same apart]

/-- The flag comes first, there is another member, and spaces stand between the tokens. -/
theorem json_shape_exact_unordered :
    ofJsonText? "\x7b\"hasPrivateKey\":true, \"x\":null, \"segments\": [4294967295]\x7d" =
        some ⟨.priv, [⟨0xFFFFFFFF⟩]⟩ ∧
      ofJsonText? "\x7b\"hasPrivateKey\":true, \"x\":null, \"segments\": [4294967295]\x7d" =
        ofJsonText? "\x7b\"segments\":[4294967295],\"hasPrivateKey\":true\x7d" := by
  have spaced : Spaced (Value.object [(privateName, .bool true), (units "x", .null),
        (segmentsName, .array [.number "4294967295".toList])]).tokens
      "\x7b\"hasPrivateKey\":true, \"x\":null, \"segments\": [4294967295]\x7d".toList :=
    spaced_of_tokens?_eq_some (by decide +kernel)
  have usual : Spaced (Value.object [(segmentsName, .array [.number "4294967295".toList]),
        (privateName, .bool true)]).tokens
      "\x7b\"segments\":[4294967295],\"hasPrivateKey\":true\x7d".toList :=
    spaced_of_tokens?_eq_some (by decide +kernel)
  have names : privateName ≠ segmentsName := by decide +kernel
  have apart : units "x" ≠ segmentsName ∧ units "x" ≠ privateName := by decide +kernel
  have shape : Shape [.number "4294967295".toList] true (.object [(privateName, .bool true),
      (units "x", .null), (segmentsName, .array [.number "4294967295".toList])]) := by
    refine .object ?_ ⟨[_, _], [], rfl, by simp [names, apart]⟩
      ⟨[], [_, _], rfl, by simp [names.symm, apart]⟩
    simp only [List.forall_mem_cons]
    exact ⟨⟨_, rfl⟩, ⟨_, rfl⟩, ⟨_, rfl⟩, by simp⟩
  have number : Segment.IsNumber ⟨0xFFFFFFFF⟩ (.number "4294967295".toList) :=
    ⟨_, rfl, isNatural_iff.mp (by decide), by decide⟩
  constructor
  · exact ((json_shape_exact.2.1 _ _ spaced).2 _).mpr ⟨_, shape, .cons number .nil⟩
  · refine json_shape_exact.2.2 _ _ [(units "x", .null)] _ _ usual spaced ?_ ?_
    · exact List.perm_append_singleton _ [_, _]
    · intro m member
      rw [List.mem_singleton.mp member]
      exact ⟨⟨"x", rfl⟩, apart⟩

/-- Members that make a path, and one more, whose name is half of a surrogate pair. -/
def unpairedMembers : List (List UInt16 × Value) :=
  [(segmentsName, .array [.number ['1']]), (privateName, .bool true), ([0xD800], .number ['1'])]

/-- Members that make a path are refused for the name of another member that is no text. -/
theorem ofJsonText?_unpairedMembers :
    Spaced (Value.object unpairedMembers).tokens
        "\x7b\"segments\":[1],\"hasPrivateKey\":true,\"\\ud800\":1\x7d".toList ∧
      ¬ ((∃ p, ofJsonText?
          "\x7b\"segments\":[1],\"hasPrivateKey\":true,\"\\ud800\":1\x7d" = some p) ↔
        ∃ numbers flag, OnlyMember segmentsName (.array numbers) unpairedMembers ∧
          OnlyMember privateName (.bool flag) unpairedMembers ∧
          ∀ n ∈ numbers, Segment.Fits n) := by
  have spaced : Spaced (Value.object unpairedMembers).tokens
      "\x7b\"segments\":[1],\"hasPrivateKey\":true,\"\\ud800\":1\x7d".toList :=
    spaced_of_tokens?_eq_some (by decide +kernel)
  have refused : ofJson? (.object unpairedMembers) = none := by decide +kernel
  have names : segmentsName ≠ privateName := by decide +kernel
  have apart : [0xD800] ≠ segmentsName ∧ [0xD800] ≠ privateName := by decide +kernel
  have segments : OnlyMember segmentsName (.array [.number ['1']]) unpairedMembers :=
    ⟨[], _, rfl, by simp [names.symm, apart]⟩
  have flag : OnlyMember privateName (.bool true) unpairedMembers :=
    ⟨[_], [_], rfl, by simp [names, apart]⟩
  have fits : Segment.Fits (.number ['1']) := ⟨_, rfl, isNatural_iff.mp rfl, by decide⟩
  refine ⟨spaced, fun agree => ?_⟩
  obtain ⟨p, read⟩ := agree.mpr ⟨_, _, segments, flag, by simpa using fits⟩
  rw [ofJsonText?_of_spaced spaced, refused] at read
  cases read

end Path

end KeyPath
