import KeyPath.Proofs.Segment.Language
import KeyPath.Segment.Format

/-!
# Written segments are spellings

Under a layout without a plus sign, and whose fill is a blank, a written segment is a spelling of
it with blanks around.  Zeros only lengthen the numeral; a blank fill stands outside the spelling,
or between the digits and the mark, where a spelling may have blanks.
-/

namespace KeyPath

namespace Decimal

/-- Leading zeros do not change a number. -/
theorem value_zeros_append (count : Nat) (cs : List Char) :
    value (List.replicate count '0' ++ cs) = value cs := by
  induction count with
  | zero => rfl
  | succ count ih =>
    rw [List.replicate_succ, List.cons_append, ← ih]
    rfl

end Decimal

namespace Segment

open Text

/-- The layout writes no sign, and fills with blanks. -/
structure BlankFilled (layout : Layout) : Prop where
  unsigned : layout.sign ≠ some .plus
  blank : isBlank layout.fill = true

theorem blankFilled_plain : BlankFilled .plain := ⟨by decide, by decide⟩

theorem blankFilled_other : BlankFilled .other := ⟨by decide, by decide⟩

theorem numeral_digits {n : Nat} (small : n < 0x80000000) (zeros : Nat) :
    Numeral (List.replicate zeros '0' ++ Decimal.digits n) := by
  constructor
  · intro eq
    exact Decimal.digits_ne_nil n (List.append_eq_nil_iff.mp eq).2
  · intro c member
    rcases List.mem_append.mp member with zero | digit
    · rw [List.eq_of_mem_replicate zero]
      rfl
    · exact Decimal.isDigit_of_mem_digits digit
  · rwa [Decimal.value_zeros_append, Decimal.value_digits]

/-- A laid-out number is a numeral of it with blanks around. -/
theorem exists_number_eq {layout : Layout} (filled : BlankFilled layout) {n : Nat}
    (small : n < 0x80000000) :
    ∃ before digits after, layout.number n = before ++ (digits ++ after) ∧
      (∀ c ∈ before, isBlank c = true) ∧ (∀ c ∈ after, isBlank c = true) ∧
      Numeral digits ∧ Decimal.value digits = n := by
  have unsigned : layout.signText = [] := if_neg filled.unsigned
  have fill (count : Nat) : ∀ c ∈ List.replicate count layout.fill, isBlank c = true := by
    intro c member
    rw [List.eq_of_mem_replicate member]
    exact filled.blank
  simp only [Layout.number, unsigned, List.nil_append]
  split
  · refine ⟨[], _, [], (List.append_nil _).symm, by simp, by simp, numeral_digits small _, ?_⟩
    rw [Decimal.value_zeros_append, Decimal.value_digits]
  · exact ⟨_, Decimal.digits n, _, List.append_assoc _ _ _, fill _, fill _,
      numeral_digits small 0, Decimal.value_digits n⟩

namespace Spells

variable {s : Segment} {token : List Char}

theorem ne_nil (spells : Spells s token) : token ≠ [] := by
  cases spells with
  | bare numeral => exact numeral.ne_nil
  | marked => simp

theorem trimmed (spells : Spells s token) : Trimmed token := by
  cases spells with
  | bare numeral => exact numeral.trimmed
  | marked numeral blank marks =>
    constructor
    · intro c first
      obtain ⟨d, digits, rfl⟩ := List.exists_cons_of_ne_nil numeral.ne_nil
      exact numeral.trimmed.first c first
    · intro c last
      rw [List.getLast?_concat, Option.some.injEq] at last
      rw [← last]
      exact isBlank_of_isMark (isMark_iff.mpr marks)

theorem head_isDigit (spells : Spells s token) {c : Char} (head : token.head? = some c) :
    c.isDigit = true := by
  cases spells with
  | bare numeral => exact numeral.isDigit c (List.mem_of_head? head)
  | marked numeral =>
    obtain ⟨d, digits, rfl⟩ := List.exists_cons_of_ne_nil numeral.ne_nil
    have first : d = c := Option.some.inj head
    exact first ▸ numeral.isDigit d List.mem_cons_self

theorem slash_notMem (spells : Spells s token) : '/' ∉ token := by
  have notDigit {digits : List Char} (numeral : Numeral digits) : '/' ∉ digits := by
    intro member
    exact absurd (numeral.isDigit '/' member) (by decide)
  cases spells with
  | bare numeral => exact notDigit numeral
  | marked numeral blank marks =>
    intro member
    rw [List.mem_append, List.mem_append, List.mem_singleton] at member
    rcases member with (digit | space) | rfl
    · exact notDigit numeral digit
    · exact absurd (blank '/' space) (by decide)
    · exact absurd marks (by decide)

end Spells

/-- A written segment is a spelling of it with blanks around.  Blanks that fill up the number stand
before the mark, inside the spelling. -/
theorem exists_format_eq {layout : Layout} (filled : BlankFilled layout) (s : Segment) :
    ∃ before token after, s.format layout = before ++ (token ++ after) ∧
      (∀ c ∈ before, isBlank c = true) ∧ (∀ c ∈ after, isBlank c = true) ∧ Spells s token := by
  obtain ⟨before, digits, after, eq, blankBefore, blankAfter, numeral, value⟩ :=
    exists_number_eq filled s.index_lt
  rw [format, eq, markText]
  cases hard : s.hardened with
  | false =>
    exact ⟨before, digits, after, by simp, blankBefore, blankAfter,
      .bare numeral value.symm hard⟩
  | true =>
    have marks : mark layout.alternate = 'H' ∨ mark layout.alternate = 'h' ∨
        mark layout.alternate = '\x27' := by
      cases layout.alternate <;> decide
    exact ⟨before, digits ++ after ++ [mark layout.alternate], [], by simp, blankBefore, by simp,
      .marked numeral blankAfter marks value.symm hard⟩

theorem spells_trim_format {layout : Layout} (filled : BlankFilled layout) (s : Segment) :
    Spells s (trim (s.format layout)) := by
  obtain ⟨before, token, after, eq, blankBefore, blankAfter, spells⟩ := exists_format_eq filled s
  rwa [eq, trim_blanks_around blankBefore spells.trimmed blankAfter]

theorem slash_notMem_format {layout : Layout} (filled : BlankFilled layout) (s : Segment) :
    '/' ∉ s.format layout := by
  obtain ⟨before, token, after, eq, blankBefore, blankAfter, spells⟩ := exists_format_eq filled s
  rw [eq, List.mem_append, List.mem_append]
  rintro (space | inside | space)
  · exact absurd (blankBefore '/' space) (by decide)
  · exact spells.slash_notMem inside
  · exact absurd (blankAfter '/' space) (by decide)

end Segment

end KeyPath
