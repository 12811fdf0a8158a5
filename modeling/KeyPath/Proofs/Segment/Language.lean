import KeyPath.Proofs.Text.Trimming
import KeyPath.Segment.Parse

/-!
# The language of segments

Which tokens spell a segment, said without the reader: a numeral below the bound of the indexes,
and for a hardened segment blanks and one mark after it.  Reading accepts exactly these tokens, and
it gives each the one segment that it spells.
-/

namespace KeyPath.Segment

open Text

/-- One or more decimal digits, leading zeros included, whose number takes at most 31 bits. -/
structure Numeral (digits : List Char) : Prop where
  ne_nil : digits ≠ []
  isDigit : ∀ c ∈ digits, c.isDigit = true
  value_lt : Decimal.value digits < 0x80000000

/-- The token is a way to write the segment. -/
inductive Spells (s : Segment) : List Char → Prop where
  | bare {digits : List Char} (numeral : Numeral digits)
      (index : s.index.toNat = Decimal.value digits) (normal : s.hardened = false) :
      Spells s digits
  | marked {digits blanks : List Char} {mark : Char} (numeral : Numeral digits)
      (blank : ∀ c ∈ blanks, isBlank c = true) (isMark : mark = 'H' ∨ mark = 'h' ∨ mark = '\x27')
      (index : s.index.toNat = Decimal.value digits) (hardened : s.hardened = true) :
      Spells s (digits ++ blanks ++ [mark])

theorem isMark_iff {c : Char} : isMark c = true ↔ c = 'H' ∨ c = 'h' ∨ c = '\x27' := by
  simp [isMark, or_assoc]

theorem isBlank_of_isDigit {c : Char} (digit : c.isDigit = true) : isBlank c = false := by
  have range := Char.isDigit_iff_toNat.mp digit
  have low : 48 ≤ c.toNat := range.1
  have high : c.toNat ≤ 57 := range.2
  rw [Bool.eq_false_iff]
  intro blank
  simp only [isBlank, Bool.or_eq_true, Bool.and_eq_true, decide_eq_true_eq, beq_iff_eq] at blank
  omega

theorem isMark_of_isDigit {c : Char} (digit : c.isDigit = true) : isMark c = false := by
  rw [Bool.eq_false_iff]
  intro mark
  rcases isMark_iff.mp mark with rfl | rfl | rfl <;> exact absurd digit (by decide)

theorem isBlank_of_isMark {c : Char} (mark : isMark c = true) : isBlank c = false := by
  rcases isMark_iff.mp mark with rfl | rfl | rfl <;> rfl

namespace Numeral

theorem last_isDigit {digits : List Char} (numeral : Numeral digits) {c : Char}
    (last : digits.getLast? = some c) : c.isDigit = true :=
  numeral.isDigit c (List.mem_of_getLast? last)

theorem trimmed {digits : List Char} (numeral : Numeral digits) : Trimmed digits := by
  constructor
  · intro c first
    exact isBlank_of_isDigit (numeral.isDigit c (List.mem_of_head? first))
  · intro c last
    exact isBlank_of_isDigit (numeral.last_isDigit last)

end Numeral

/-- An index and a mark tell the segment. -/
theorem join_eq_iff {n : Nat} (small : n < 0x80000000) {hard : Bool} {s : Segment} :
    join (UInt32.ofNat n) hard = s ↔ s.index.toNat = n ∧ s.hardened = hard := by
  have size : (UInt32.ofNat n).toNat = n := by
    apply UInt32.toNat_ofNat_of_lt'
    rw [UInt32.size]
    omega
  have below : (UInt32.ofNat n).toNat < 0x80000000 := by omega
  constructor
  · rintro rfl
    rw [index_join below, hardened_join below, size]
    exact ⟨rfl, rfl⟩
  · rintro ⟨index, rfl⟩
    have same : UInt32.ofNat n = s.index := by
      apply UInt32.toNat_inj.mp
      rw [size, index]
    rw [same, join_index_hardened]

/-- What is read from a token whose mark is off. -/
theorem ofToken_eq_ok_of_splitMark {token digits : List Char} {hard : Bool} {s : Segment}
    (split : splitMark token = (digits, hard)) :
    ofToken token = .ok s ↔
      Numeral digits ∧ s.index.toNat = Decimal.value digits ∧ s.hardened = hard := by
  simp only [ofToken, split]
  by_cases empty : digits = []
  · subst empty
    constructor
    · intro read
      simp at read
    · rintro ⟨numeral, -⟩
      exact absurd rfl numeral.ne_nil
  by_cases isDigit : ∀ c ∈ digits, c.isDigit = true
  · have all : digits.all Char.isDigit = true := List.all_eq_true.mpr isDigit
    have number := ofNumeral_eq empty isDigit hard
    by_cases small : Decimal.value digits < 0x80000000
    · have numeral : Numeral digits := ⟨empty, isDigit, small⟩
      simp [empty, all, number, small, join_eq_iff small, numeral]
    · constructor
      · intro read
        simp [empty, all, number, small] at read
      · rintro ⟨numeral, -⟩
        exact absurd numeral.value_lt small
  · have all : digits.all Char.isDigit = false := by
      rw [Bool.eq_false_iff]
      intro yes
      exact isDigit (List.all_eq_true.mp yes)
    constructor
    · intro read
      simp [empty, all] at read
    · rintro ⟨numeral, -⟩
      exact absurd numeral.isDigit isDigit

theorem splitMark_of_numeral {digits : List Char} (numeral : Numeral digits) :
    splitMark digits = (digits, false) := by
  unfold splitMark
  cases last : digits.getLast? with
  | none => exact absurd (List.getLast?_eq_none_iff.mp last) numeral.ne_nil
  | some c => simp [isMark_of_isDigit (numeral.last_isDigit last)]

theorem splitMark_marked {digits blanks : List Char} {mark : Char} (trimmed : Trimmed digits)
    (blank : ∀ c ∈ blanks, isBlank c = true) (marks : isMark mark = true) :
    splitMark (digits ++ blanks ++ [mark]) = (digits, true) := by
  rw [splitMark_concat, if_pos marks, trimEnd_append_blanks blank, trimEnd_eq_self trimmed.last]

/-- The reader accepts exactly the spellings of segments. -/
theorem ofToken_eq_ok_iff {token : List Char} {s : Segment} :
    ofToken token = .ok s ↔ Spells s token := by
  constructor
  · intro read
    rcases List.eq_nil_or_concat token with rfl | ⟨front, last, rfl⟩
    · simp [ofToken, splitMark_nil] at read
    rw [List.concat_eq_append] at read ⊢
    have split := splitMark_concat front last
    by_cases marks : isMark last = true
    · rw [if_pos marks] at split
      obtain ⟨numeral, index, hardened⟩ := (ofToken_eq_ok_of_splitMark split).mp read
      rw [← trimEnd_append_trailingBlanks front]
      exact .marked numeral (fun c member => isBlank_of_mem_trailingBlanks member)
        (isMark_iff.mp marks) index hardened
    · rw [if_neg marks] at split
      obtain ⟨numeral, index, normal⟩ := (ofToken_eq_ok_of_splitMark split).mp read
      exact .bare numeral index normal
  · intro spells
    cases spells with
    | bare numeral index normal =>
      exact (ofToken_eq_ok_of_splitMark (splitMark_of_numeral numeral)).mpr
        ⟨numeral, index, normal⟩
    | marked numeral blank marks index hardened =>
      have split := splitMark_marked numeral.trimmed blank (isMark_iff.mpr marks)
      exact (ofToken_eq_ok_of_splitMark split).mpr ⟨numeral, index, hardened⟩

example : ofToken "0044 \u2003h".toList = .ok ⟨0x8000002C⟩ := by rfl

theorem value_parse_eq_ok_iff {text : String} {s : Segment} :
    (parse text).value = .ok s ↔ Spells s (trim text.toList) := by
  rw [value_parse, ← ofToken_eq_ok_iff]
  cases ofToken (trim text.toList) with
  | ok c =>
    constructor
    · rintro ⟨⟩
      rfl
    · rintro ⟨⟩
      rfl
  | error reason => exact iff_of_false nofun nofun

/-- A token without blanks around it is refused where it stands. -/
theorem value_parse_of_trimmed {token : List Char} {reason : TokenFault} (trimmed : Trimmed token)
    (bad : ofToken token = .error reason) :
    (parse (String.ofList token)).value =
      .error (.malformed (String.ofList token) 0 reason) := by
  rw [value_parse, String.toList_ofList, trim_of_trimmed trimmed, leadingBlanks_of_trimmed trimmed,
    bad]
  rfl

end KeyPath.Segment
