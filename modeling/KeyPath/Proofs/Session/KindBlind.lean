import KeyPath.Proofs.Path.StoredForms
import KeyPath.Session.Run

/-!
# Sessions are blind to kinds

The kind of a path is carried along and shown, and nothing else depends on it.  Two sessions that
differ only in the kinds that their steps give keep paths with the same segments after every step,
and give the same answers to all questions about segments.  The bytes of a path, the child steps it
becomes, what it feeds to a hasher and how it compares are functions of its segments too.
-/

namespace KeyPath

namespace Path

open Text

/-- The texts differ at most in the letter of a kind of keys, with blanks alone before it. -/
inductive SameButLetter : String → String → Prop where
  | same (s : String) : SameButLetter s s
  | letter {blanks : List Char} (blank : ∀ c ∈ blanks, isBlank c = true) (kind other : KeyKind)
      (rest : List Char) :
      SameButLetter (String.ofList (blanks ++ kind.symbol :: rest))
        (String.ofList (blanks ++ other.symbol :: rest))

variable {list : List Segment} {s t : String}

/-- The segments that are read from a text, without the kind. -/
theorem map_segments_parse_eq_some_iff :
    (parse s).value.toOption.map segments = some list ↔
      List.Forall₂ Segment.Spells list (segmentTokens s) := by
  rw [← map_fst_placedSegments, ← value_readSegments_eq_ok_iff, value_parse]
  cases (readSegments s (placedSegments s)).value with
  | error fault => simp [Except.map, Except.toOption]
  | ok read => simp [Except.map, Except.toOption]

section
variable {blanks rest first : List Char} {others : List (List Char)}
  (blank : ∀ c ∈ blanks, isBlank c = true) (eq : pieces '/' rest = first :: others)
include blank eq

theorem tokens_letter (kind : KeyKind) :
    tokens (String.ofList (blanks ++ kind.symbol :: rest)) =
      (kind.symbol :: trimEnd first) :: others.map trim := by
  have noSlash : '/' ∉ blanks ++ [kind.symbol] := by
    rw [List.mem_append, List.mem_singleton]
    rintro (space | letter)
    · exact absurd (blank '/' space) (by decide)
    · cases kind <;> exact absurd letter (by decide)
  have kept : isBlank kind.symbol = false := by cases kind <;> decide
  have chars : blanks ++ kind.symbol :: rest = (blanks ++ [kind.symbol]) ++ rest := by simp
  have front : (blanks ++ [kind.symbol]) ++ first = blanks ++ kind.symbol :: first := by simp
  rw [tokens, String.toList_ofList, chars, pieces_append_of_notMem '/' noSlash, eq,
    List.modifyHead_cons, List.map_cons, front, trim_blanks_cons blank kept]

/-- A letter in front is either a token of its own, and gives the kind, or it spoils the text. -/
theorem forall₂_spells_letter (kind : KeyKind) :
    List.Forall₂ Segment.Spells list
        (segmentTokens (String.ofList (blanks ++ kind.symbol :: rest))) ↔
      trimEnd first = [] ∧
        List.Forall₂ Segment.Spells list ((others.map trim).filter (· ≠ [])) := by
  rw [segmentTokens, tokens_letter blank eq, dropKind]
  by_cases alone : trimEnd first = []
  · have letter : [kind.symbol] = ['m'] ∨ [kind.symbol] = ['M'] := by cases kind <;> decide
    rw [alone, if_pos letter]
    simp
  · have longer : ¬ (kind.symbol :: trimEnd first = ['m'] ∨ kind.symbol :: trimEnd first = ['M']) := by
      simp [alone]
    rw [if_neg longer, List.filter_cons_of_pos (by simp), List.forall₂_cons_right_iff]
    constructor
    · rintro ⟨segment, -, spells, -⟩
      have digit := spells.head_isDigit rfl
      cases kind <;> exact absurd digit (by decide)
    · rintro ⟨only, -⟩
      exact absurd only alone

end

/-- The letter does not matter for the segments that are read, nor for whether any are. -/
theorem map_segments_parse_congr (texts : SameButLetter s t) :
    (parse s).value.toOption.map segments = (parse t).value.toOption.map segments := by
  cases texts with
  | same => rfl
  | letter blank kind other rest =>
    obtain ⟨first, others, eq⟩ := exists_pieces_eq_cons '/' rest
    apply Option.ext
    intro list
    rw [map_segments_parse_eq_some_iff, map_segments_parse_eq_some_iff,
      forall₂_spells_letter blank eq, forall₂_spells_letter blank eq]

end Path

namespace Session

/-- The sources differ at most in the kind that they give. -/
inductive Source.SameButKind : Source → Source → Prop where
  | same (source : Source) : SameButKind source source
  | text {s t : String} (texts : Path.SameButLetter s t) : SameButKind (.text s) (.text t)
  | segments (kind other : KeyKind) (list : List Segment) :
      SameButKind (.segments kind list) (.segments other list)
  | steps (kind other : KeyKind) (list : List ChildStep) :
      SameButKind (.steps kind list) (.steps other list)

/-- The derivations differ at most in the kind that they give. -/
inductive Derivation.SameButKind : Derivation → Derivation → Prop where
  | same (derivation : Derivation) : SameButKind derivation derivation
  | steps (kind other : KeyKind) : SameButKind (.steps kind) (.steps other)

/-- The steps differ at most in the kind that they give. -/
inductive Step.SameButKind : Step → Step → Prop where
  | build {source other : Source} (sources : source.SameButKind other) :
      SameButKind (.build source) (.build other)
  | derive (on : Option Nat) {derivation other : Derivation}
      (derivations : derivation.SameButKind other) :
      SameButKind (.derive on derivation) (.derive on other)
  | ancestors (on : Option Nat) (includeSelf : Bool) :
      SameButKind (.ancestors on includeSelf) (.ancestors on includeSelf)
  | ask (on : Option Nat) (query : Query) : SameButKind (.ask on query) (.ask on query)

/-- Nothing but their kinds can tell the two lists of paths apart. -/
structure Indistinct (kept others : List Path) : Prop where
  segments : kept.map Path.segments = others.map Path.segments
  bytes : kept.map Path.write = others.map Path.write
  childSteps : kept.map Path.toSteps = others.map Path.toSteps
  hashInputs : kept.map Path.hashInput = others.map Path.hashInput
  comparisons : (kept.map fun p => kept.map (Path.comparison p)) =
    others.map fun p => others.map (Path.comparison p)

variable {kept others : List Path} {p q : Path}

/-- A function of paths that looks at segments alone takes the same values on both lists. -/
theorem map_congr_segments {β : Type} (f : Path → β)
    (blind : ∀ p, f p = f (Path.ofSegments p.segments))
    (same : kept.map Path.segments = others.map Path.segments) : kept.map f = others.map f := by
  have factors : f = (f ∘ Path.ofSegments) ∘ Path.segments := funext blind
  rw [factors, ← List.map_map, same, List.map_map]

theorem indistinct_of_segments (same : kept.map Path.segments = others.map Path.segments) :
    Indistinct kept others where
  segments := same
  bytes := map_congr_segments Path.write (fun _ => rfl) same
  childSteps := map_congr_segments Path.toSteps (fun _ => rfl) same
  hashInputs := map_congr_segments Path.hashInput (fun _ => rfl) same
  comparisons := by
    have row (p : Path) : kept.map (Path.comparison p) = others.map (Path.comparison p) :=
      map_congr_segments (Path.comparison p) (fun _ => rfl) same
    rw [funext row]
    exact map_congr_segments (fun p => others.map (Path.comparison p)) (fun _ => rfl) same

theorem map_segments_ofResult {result other : Except Failure Path}
    (same : result.toOption.map Path.segments = other.toOption.map Path.segments) :
    (Outcome.ofResult result).made.map Path.segments =
      (Outcome.ofResult other).made.map Path.segments := by
  rw [Outcome.made_ofResult, Outcome.made_ofResult, ← Option.toList_map, same, Option.toList_map]

theorem map_segments_build {source other : Source} (sources : source.SameButKind other) :
    source.build.value.toOption.map Path.segments =
      other.build.value.toOption.map Path.segments := by
  cases sources with
  | same => rfl
  | @text s t texts =>
    have forget (s : String) : (Source.text s).build.value.toOption = (Path.parse s).value.toOption := by
      rw [value_build_text]
      cases (Path.parse s).value <;> rfl
    rw [forget, forget, Path.map_segments_parse_congr texts]
  | segments => rfl
  | steps => rfl

/-- Two options with the same image are both empty, or are both of something. -/
theorem none_or_some_of_map_eq {α β : Type} {f : α → β} {a b : Option α} (same : a.map f = b.map f) :
    (a = none ∧ b = none) ∨ ∃ x y, a = some x ∧ b = some y ∧ f x = f y := by
  cases a with
  | none =>
    cases b with
    | none => exact Or.inl ⟨rfl, rfl⟩
    | some y => cases same
  | some x =>
    cases b with
    | none => cases same
    | some y => exact Or.inr ⟨x, y, rfl, rfl, Option.some.inj same⟩

theorem map_segments_ancestors (p : Path) (includeSelf : Bool) :
    (p.ancestors includeSelf).map Path.segments =
      (List.range' 1 (if includeSelf then p.segments.length else p.segments.length - 1)).map
        p.segments.take := by
  rw [Path.ancestors, List.map_map]
  rfl

section
variable (sameKept : kept.map Path.segments = others.map Path.segments)
include sameKept

theorem map_segments_getElem? (number : Nat) :
    kept[number]?.map Path.segments = others[number]?.map Path.segments := by
  rw [← List.getElem?_map, sameKept, List.getElem?_map]

theorem map_segments_receiver? (on : Option Nat) :
    (receiver? kept on).map Path.segments = (receiver? others on).map Path.segments := by
  cases on with
  | some number => exact map_segments_getElem? sameKept number
  | none => rw [receiver?, receiver?, ← List.getLast?_map, sameKept, List.getLast?_map]

/-- What is derived from paths with the same segments has the same segments, whatever is written
and read on the way. -/
theorem map_segments_apply (same : p.segments = q.segments) {derivation other : Derivation}
    (derivations : derivation.SameButKind other) :
    (derivation.apply kept p).value.toOption.map Path.segments =
      (other.apply others q).value.toOption.map Path.segments := by
  cases derivations with
  | steps kind other => simp [Derivation.apply, Except.toOption, Path.ofSteps_toSteps, same]
  | same =>
    cases derivation with
    | append number =>
      rcases none_or_some_of_map_eq (map_segments_getElem? sameKept number) with
        ⟨here, there⟩ | ⟨a, b, here, there, segments⟩
      · simp [Derivation.apply, here, there, Except.toOption]
      · simp [Derivation.apply, here, there, Except.toOption, same, segments]
    | extend list => simp [Derivation.apply, Except.toOption, same]
    | child s => simp [Derivation.apply, Except.toOption, same]
    | parent => simp [Derivation.apply, Except.toOption, same]
    | reload => simp [Derivation.apply, Except.toOption, Path.unpack_pack, Path.ofSegments, same]
    | reparse => simp [Derivation.apply, Except.toOption, Except.mapError, same]
    | json => simp [Derivation.apply, Except.toOption, same]
    | steps kind => simp [Derivation.apply, Except.toOption, Path.ofSteps_toSteps, same]

/-- Steps that differ only in kinds make paths with the same segments. -/
theorem map_segments_made {step other : Step} (steps : step.SameButKind other) :
    (step.perform kept).value.made.map Path.segments =
      (other.perform others).value.made.map Path.segments := by
  cases steps with
  | build sources => exact map_segments_ofResult (map_segments_build sources)
  | derive on derivations =>
    rcases none_or_some_of_map_eq (map_segments_receiver? sameKept on) with
      ⟨here, there⟩ | ⟨p, q, here, there, same⟩
    · simp only [Step.perform, here, there]
    · simp only [Step.perform, here, there]
      exact map_segments_ofResult (map_segments_apply sameKept same derivations)
  | ancestors on includeSelf =>
    rcases none_or_some_of_map_eq (map_segments_receiver? sameKept on) with
      ⟨here, there⟩ | ⟨p, q, here, there, same⟩
    · simp only [Step.perform, here, there]
    · simp only [Step.perform, here, there, Logged.value_pure, map_segments_ancestors, same]
  | ask on query =>
    rcases none_or_some_of_map_eq (map_segments_receiver? sameKept on) with
      ⟨here, there⟩ | ⟨p, q, here, there, -⟩
    · simp only [Step.perform, here, there]
    · simp only [Step.perform, here, there]
      rfl

/-- Only the description of a path shows its kind. -/
theorem answer_congr (same : p.segments = q.segments) {query : Query} (blind : query ≠ .describe) :
    query.answer kept p = query.answer others q := by
  obtain ⟨kind, list⟩ := p
  obtain ⟨other, _⟩ := q
  cases same
  cases query with
  | startsWith number =>
    rcases none_or_some_of_map_eq (map_segments_getElem? sameKept number) with
      ⟨here, there⟩ | ⟨⟨_, list⟩, ⟨_, _⟩, here, there, rfl⟩
    · simp only [Query.answer, here, there]
    · simp only [Query.answer, here, there]
      rfl
  | comparison number =>
    rcases none_or_some_of_map_eq (map_segments_getElem? sameKept number) with
      ⟨here, there⟩ | ⟨⟨_, list⟩, ⟨_, _⟩, here, there, rfl⟩
    · simp only [Query.answer, here, there]
    · simp only [Query.answer, here, there]
      rfl
  | describe => exact absurd rfl blind
  | _ => rfl

theorem reply_ask_congr (on : Option Nat) {query : Query} (blind : query ≠ .describe) :
    ((Step.ask on query).perform kept).value.reply =
      ((Step.ask on query).perform others).value.reply := by
  rcases none_or_some_of_map_eq (map_segments_receiver? sameKept on) with
    ⟨here, there⟩ | ⟨p, q, here, there, same⟩
  · simp only [Step.perform, here, there]
  · simp only [Step.perform, here, there]
    exact answer_congr sameKept same blind

end

variable {first second : List Step}

theorem map_segments_run (alike : List.Forall₂ Step.SameButKind first second)
    (sameKept : kept.map Path.segments = others.map Path.segments) :
    (run kept first).value.2.map Path.segments = (run others second).value.2.map Path.segments := by
  induction alike generalizing kept others with
  | nil => exact sameKept
  | cons steps _ ih =>
    rw [run_cons, run_cons]
    apply ih
    rw [List.map_append, List.map_append, sameKept, map_segments_made sameKept steps]

theorem replies_run_congr (alike : List.Forall₂ Step.SameButKind first second)
    (sameKept : kept.map Path.segments = others.map Path.segments) {i : Nat} {on : Option Nat}
    {query : Query} (asked : first[i]? = some (.ask on query)) (blind : query ≠ .describe) :
    (run kept first).value.1[i]? = (run others second).value.1[i]? := by
  induction alike generalizing kept others i with
  | nil => cases asked
  | cons steps _ ih =>
    rw [run_cons, run_cons]
    cases i with
    | zero =>
      obtain rfl := Option.some.inj asked
      cases steps
      exact congrArg some (reply_ask_congr sameKept on blind)
    | succ i =>
      apply ih _ asked
      rw [List.map_append, List.map_append, sameKept, map_segments_made sameKept steps]

/-- Sessions whose steps differ only in the kinds they give cannot be told apart, after any number
of steps and by any question, except by looking at the kinds. -/
theorem kinds_never_leak (first second : List Step)
    (alike : List.Forall₂ Step.SameButKind first second) :
    (∀ n, Indistinct (start (first.take n)).value.2 (start (second.take n)).value.2) ∧
    ∀ (i : Nat) (on : Option Nat) (query : Query), first[i]? = some (.ask on query) →
      query ≠ .describe → (start first).value.1[i]? = (start second).value.1[i]? := by
  constructor
  · intro n
    exact indistinct_of_segments (map_segments_run (List.forall₂_take n alike) rfl)
  · intro i on query asked blind
    exact replies_run_congr alike rfl asked blind

/-- Paths of other kinds are read, written and compared again, and a letter that is no token of its
own is refused in both sessions. -/
theorem kinds_never_leak_texts :
    (start [.build (.text " m/44H"), .build (.text "mm/1"), .derive none .reparse,
        .derive none (.steps .pub), .ask (some 1) (.comparison 2)]).value.2 =
      [⟨.priv, [⟨0x8000002C⟩]⟩, ⟨.priv, [⟨0x8000002C⟩]⟩, ⟨.pub, [⟨0x8000002C⟩]⟩] ∧
    (start [.build (.text " m/44H"), .build (.text "mm/1"), .derive none .reparse,
        .derive none (.steps .pub), .ask (some 1) (.comparison 2)]).value.1[4]? =
      (start [.build (.text " M/44H"), .build (.text "Mm/1"), .derive none .reparse,
        .derive none (.steps .priv), .ask (some 1) (.comparison 2)]).value.1[4]? := by
  have spaced : Path.SameButLetter " m/44H" " M/44H" :=
    .letter (fun c member => by rw [List.mem_singleton.mp member]; rfl : ∀ c ∈ [' '], _) .priv .pub
      "/44H".toList
  have spoilt : Path.SameButLetter "mm/1" "Mm/1" :=
    .letter (by simp : ∀ c ∈ [], Text.isBlank c = true) .priv .pub "m/1".toList
  refine ⟨?_, ?_⟩
  · decide +kernel
  · apply (kinds_never_leak _ _ _).2 4 (some 1) (.comparison 2) rfl (by decide)
    exact .cons (.build (.text spaced)) (.cons (.build (.text spoilt))
      (.cons (.derive none (.same .reparse)) (.cons (.derive none (.steps .pub .priv))
        (.cons (.ask (some 1) (.comparison 2)) .nil))))

end Session

end KeyPath
