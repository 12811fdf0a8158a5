import KeyPath.Proofs.Segment.Written
import KeyPath.Proofs.Text.Lowering
import KeyPath.Purpose.Text

/-!
# Reading purposes

A text is trimmed and lowered before a purpose is looked up in it, and lowering can give other
characters, and more of them.  The lowered text still says what the text itself says.  A lowered text
that is a name or spells a segment is plain and has no k, so lowering only changed ASCII capitals; in
a segment that is at most the mark, which is read in either case.
-/

namespace KeyPath

open Text

namespace Segment

variable {cs token : List Char} {s : Segment}

theorem isMark_toLower (c : Char) : isMark c.toLower = isMark c := by
  have code (d : Char) : isMark d = true ↔ d.toNat = 0x48 ∨ d.toNat = 0x68 ∨ d.toNat = 0x27 := by
    simp only [isMark_iff, ← Char.toNat_inj]
    rfl
  rw [Bool.eq_iff_iff, code, code, toNat_toLower]
  split <;> omega

theorem isDigit_toLower (c : Char) : c.toLower.isDigit = c.isDigit := by
  refine apply_toLower (a := false) ?_ c
  intro c least most
  rw [Bool.eq_false_iff]
  intro digit
  have high : c.toNat ≤ 57 := (Char.isDigit_iff_toNat.mp digit).2
  omega

theorem foldCase_of_isDigit (digits : ∀ c ∈ cs, c.isDigit = true) : foldCase cs = cs := by
  have same : ∀ c ∈ cs, c.toLower = id c := by
    intro c member
    have high : c.toNat ≤ 57 := (Char.isDigit_iff_toNat.mp (digits c member)).2
    exact toLower_eq_self (by omega)
  rw [foldCase, List.map_congr_left same, List.map_id]

theorem splitMark_foldCase (token : List Char) :
    splitMark (foldCase token) = (foldCase (splitMark token).1, (splitMark token).2) := by
  rcases List.eq_nil_or_concat token with rfl | ⟨front, last, rfl⟩
  · rfl
  · have apart : foldCase (front ++ [last]) = foldCase front ++ [last.toLower] := List.map_append
    rw [List.concat_eq_append, apart, splitMark_concat, splitMark_concat, isMark_toLower,
      trimEnd_foldCase, ← apart]
    split <;> rfl

/-- The only letter that a segment may have is its mark. -/
theorem ofToken_foldCase (token : List Char) : ofToken (foldCase token) = ofToken token := by
  obtain ⟨digits, hard, split⟩ : ∃ digits hard, splitMark token = (digits, hard) := ⟨_, _, rfl⟩
  have folded : splitMark (foldCase token) = (foldCase digits, hard) := by
    rw [splitMark_foldCase, split]
  have all : (foldCase digits).all Char.isDigit = digits.all Char.isDigit := by
    rw [foldCase, List.all_map]
    exact congrArg digits.all (funext isDigit_toLower)
  have empty : (foldCase digits).isEmpty = digits.isEmpty := List.isEmpty_map
  simp only [ofToken, split, folded, all, empty]
  by_cases isDigit : ∀ c ∈ digits, c.isDigit = true
  · rw [foldCase_of_isDigit isDigit]
  · have other : digits.all Char.isDigit = false := by
      rw [Bool.eq_false_iff]
      intro yes
      exact isDigit (List.all_eq_true.mp yes)
    rw [other]
    rfl

theorem spells_foldCase_iff : Spells s (foldCase token) ↔ Spells s token := by
  rw [← ofToken_eq_ok_iff, ← ofToken_eq_ok_iff, ofToken_foldCase]

theorem plain_of_isBlank {c : Char} (blank : isBlank c = true) : isPlain c = true ∧ c ≠ 'k' := by
  refine ⟨by simp [isPlain, blank], ?_⟩
  rintro rfl
  exact absurd blank (by decide)

theorem plain_of_isDigit {c : Char} (digit : c.isDigit = true) : isPlain c = true ∧ c ≠ 'k' := by
  have high : c.toNat ≤ 57 := (Char.isDigit_iff_toNat.mp digit).2
  have ascii : c.toNat < 0x80 := by omega
  refine ⟨by simp [isPlain, ascii], ?_⟩
  rintro rfl
  exact absurd digit (by decide)

theorem Spells.plain (spells : Spells s token) : ∀ c ∈ token, isPlain c = true ∧ c ≠ 'k' := by
  intro c member
  cases spells with
  | bare numeral => exact plain_of_isDigit (numeral.isDigit c member)
  | marked numeral blank marks =>
    rw [List.mem_append, List.mem_append, List.mem_singleton] at member
    rcases member with (digit | space) | rfl
    · exact plain_of_isDigit (numeral.isDigit c digit)
    · exact plain_of_isBlank (blank c space)
    · rcases marks with rfl | rfl | rfl <;> decide

/-- A text and its lowered form spell the same segments, because either of them has only blanks
around a spelling. -/
theorem spells_trim_lowerCase_iff (trimmed : Trimmed cs) :
    Spells s (trim (lowerCase cs)) ↔ Spells s cs := by
  have folded : trim (foldCase cs) = foldCase cs := by rw [trim_foldCase, trim_of_trimmed trimmed]
  constructor
  · intro spells
    have plain : ∀ d ∈ lowerCase cs, isPlain d = true ∧ d ≠ 'k' := by
      intro d member
      rw [← leadingBlanks_append_trim (lowerCase cs), List.mem_append, List.mem_append] at member
      rcases member with before | inside | after
      · exact plain_of_isBlank (isBlank_of_mem_leadingBlanks before)
      · exact spells.plain d inside
      · exact plain_of_isBlank (isBlank_of_mem_trailingBlanks after)
    have lowered : foldCase cs = lowerCase cs := (lowerCase_eq_iff plain).mp rfl
    rw [← lowered, folded] at spells
    exact spells_foldCase_iff.mp spells
  · intro spells
    have spelled : Spells s (foldCase cs) := spells_foldCase_iff.mpr spells
    have lowered : lowerCase cs = foldCase cs := (lowerCase_eq_iff spelled.plain).mpr rfl
    rwa [lowered, folded]

end Segment

namespace Purpose

/-- The form of a text that is looked up. -/
def folded (s : String) : String := String.ofList (lowerCase (trim s.toList))

/-- The text names the purpose, by its name in any letter case or by its segment. -/
inductive Names (s : String) (u : Purpose) : Prop where
  | name (same : foldCase (trim s.toList) = foldCase u.name.toList) : Names s u
  | segment (read : (Segment.parse s).value = .ok u.segment) : Names s u

variable {s : String} {u : Purpose}

theorem ofName?_eq_none_iff {name : String} : ofName? name = none ↔ ∀ u : Purpose, u.name ≠ name := by
  simp [ofName?, mem_all]

theorem name_injective {u v : Purpose} (same : u.name = v.name) : u = v := by
  revert same
  cases u <;> cases v <;> decide

theorem ofName?_eq_some_iff {name : String} : ofName? name = some u ↔ u.name = name := by
  constructor
  · intro found
    exact beq_iff_eq.mp (List.find?_some (p := fun u : Purpose => u.name == name) found)
  · rintro rfl
    cases u <;> decide

/-- A name spells no segment. -/
theorem value_parse_name_ne_ok (u : Purpose) (c : Segment) : (Segment.parse u.name).value ≠ .ok c := by
  rw [Ne, Segment.value_parse_eq_ok_iff]
  intro spells
  have first : (trim u.name.toList).head? = some 'b' := by cases u <;> rfl
  exact absurd (spells.head_isDigit first) (by decide)

theorem value_parse (s : String) :
    (parse s).value =
      match ofName? (folded s) with
      | some u => .ok u
      | none =>
        match (Segment.parse (folded s)).value.toOption.bind ofSegment? with
        | some u => .ok u
        | none => .error ⟨s⟩ := by
  simp only [parse, folded]
  cases ofName? (String.ofList (lowerCase (trim s.toList))) with
  | some u => rfl
  | none =>
    rw [Logged.value_bind]
    cases (Segment.parse (String.ofList (lowerCase (trim s.toList)))).value.toOption.bind
        ofSegment? <;> rfl

theorem toOption_bind_ofSegment?_eq_some_iff {read : Except Fault Segment} :
    read.toOption.bind ofSegment? = some u ↔ read = .ok u.segment := by
  cases read with
  | error fault => simp [Except.toOption]
  | ok c => simp [Except.toOption, ofSegment?_eq_some_iff]

/-- The looked up form is a name or spells the segment. -/
theorem value_parse_eq_ok_iff :
    (parse s).value = .ok u ↔
      u.name = folded s ∨ (Segment.parse (folded s)).value = .ok u.segment := by
  rw [value_parse]
  cases named : ofName? (folded s) with
  | some v =>
    have name : v.name = folded s := ofName?_eq_some_iff.mp named
    rw [Except.ok.injEq]
    constructor
    · rintro rfl
      exact Or.inl name
    · rintro (same | read)
      · exact name_injective (name.trans same.symm)
      · rw [← name] at read
        exact absurd read (value_parse_name_ne_ok v u.segment)
  | none =>
    have noName : ¬ u.name = folded s := ofName?_eq_none_iff.mp named u
    rw [← toOption_bind_ofSegment?_eq_some_iff]
    cases (Segment.parse (folded s)).value.toOption.bind ofSegment? with
    | some v => simp [noName]
    | none => simp [noName]

/-- A text of no purpose is kept as it is. -/
theorem value_parse_eq_error_iff {unknown : UnknownPurpose} :
    (parse s).value = .error unknown ↔ unknown = ⟨s⟩ ∧ ∀ u, (parse s).value ≠ .ok u := by
  rw [value_parse]
  cases ofName? (folded s) with
  | some v => simp
  | none =>
    cases (Segment.parse (folded s)).value.toOption.bind ofSegment? with
    | some v => simp
    | none => simp [eq_comm]

theorem plain_name (u : Purpose) : ∀ c ∈ u.name.toList, isPlain c = true ∧ c ≠ 'k' := by
  have all : (u.name.toList.all fun c => isPlain c && c != 'k') = true := by cases u <;> rfl
  simpa using all

theorem foldCase_name (u : Purpose) : foldCase u.name.toList = u.name.toList := by
  cases u <;> decide

theorem name_eq_folded_iff :
    u.name = folded s ↔ foldCase (trim s.toList) = foldCase u.name.toList := by
  rw [foldCase_name, ← lowerCase_eq_iff u.plain_name, folded, eq_comm, ← String.toList_inj,
    String.toList_ofList]

theorem value_parse_folded_eq_ok_iff {c : Segment} :
    (Segment.parse (folded s)).value = .ok c ↔ (Segment.parse s).value = .ok c := by
  rw [Segment.value_parse_eq_ok_iff, Segment.value_parse_eq_ok_iff, folded, String.toList_ofList,
    Segment.spells_trim_lowerCase_iff (trimmed_trim s.toList)]

/-- Lowering changes nothing that is read. -/
theorem parse_ignores_lowering (s : String) :
    (∀ u, (parse s).value = .ok u ↔ Names s u) ∧
    ∀ unknown, (parse s).value = .error unknown ↔ unknown = ⟨s⟩ ∧ ∀ u, ¬ Names s u := by
  have accepted (u : Purpose) : (parse s).value = .ok u ↔ Names s u := by
    rw [value_parse_eq_ok_iff, name_eq_folded_iff, value_parse_folded_eq_ok_iff]
    constructor
    · rintro (same | read)
      · exact .name same
      · exact .segment read
    · intro names
      cases names with
      | name same => exact Or.inl same
      | segment read => exact Or.inr read
  refine ⟨accepted, ?_⟩
  intro unknown
  rw [value_parse_eq_error_iff]
  simp only [Ne, accepted]

example : (parse "\u3000BiP49 ").value = .ok .bip49 := by rfl
example : (parse " 0044 H ").value = .ok .bip44 := by rfl
example : (parse "44").value = .error ⟨"44"⟩ := by rfl

end Purpose

end KeyPath
