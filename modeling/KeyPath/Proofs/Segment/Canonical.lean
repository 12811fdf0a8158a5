import Mathlib.Data.List.Induction
import KeyPath.Proofs.Segment.Written

/-!
# Canonical spellings of segments

Of the many ways to spell a segment one is canonical: a numeral without zeros in front, and for a
hardened segment the mark `H` right after it.  These are exactly the texts that segments are written
as in the plain layout, because a number has only one numeral that does not waste a zero.
-/

namespace KeyPath

namespace Decimal

variable {cs : List Char}

theorem digitChar_digitValue {c : Char} (digit : c.isDigit = true) : digitChar (digitValue c) = c := by
  have low : 48 ≤ c.toNat := (Char.isDigit_iff_toNat.mp digit).1
  have high : c.toNat ≤ 57 := (Char.isDigit_iff_toNat.mp digit).2
  apply Char.toNat_inj.mp
  rw [toNat_digitChar, digitValue]
  omega

theorem digitValue_lt {c : Char} (digit : c.isDigit = true) : digitValue c < 10 := by
  have high : c.toNat ≤ 57 := (Char.isDigit_iff_toNat.mp digit).2
  rw [digitValue]
  omega

theorem digitChar_mul_add (n d : Nat) : digitChar (10 * n + d) = digitChar d := by
  rw [digitChar, digitChar, Nat.mul_add_mod]

theorem digits_zero : digits 0 = ['0'] := digits_of_lt (by decide)

/-- A run of digits that does not begin with a zero is the numeral of its number. -/
theorem digits_value (nonempty : cs ≠ []) (isDigit : ∀ c ∈ cs, c.isDigit = true)
    (lead : cs.head? ≠ some '0') : digits (value cs) = cs := by
  induction cs using List.reverseRecOn with
  | nil => exact absurd rfl nonempty
  | append_singleton front c ih =>
    have digit : c.isDigit = true := isDigit c (by simp)
    have small := digitValue_lt digit
    rw [value_append_singleton]
    cases front with
    | nil =>
      rw [value_nil, Nat.mul_zero, Nat.zero_add, digits_of_lt small, digitChar_digitValue digit]
      rfl
    | cons d more =>
      have first : (d :: more).head? ≠ some '0' := lead
      have whole : digits (value (d :: more)) = d :: more :=
        ih (by simp) (fun e member => isDigit e (List.mem_append_left _ member)) first
      have positive : 0 < value (d :: more) := by
        rw [Nat.pos_iff_ne_zero]
        intro zero
        rw [← whole, zero, digits_zero] at first
        exact first rfl
      have quotient : (10 * value (d :: more) + digitValue c) / 10 = value (d :: more) := by omega
      rw [digits_of_le (by omega), quotient, whole, digitChar_mul_add, digitChar_digitValue digit]

/-- The single zero is a numeral as well. -/
theorem digits_value_of_short (nonempty : cs ≠ []) (isDigit : ∀ c ∈ cs, c.isDigit = true)
    (lead : cs = ['0'] ∨ cs.head? ≠ some '0') : digits (value cs) = cs := by
  rcases lead with rfl | lead
  · exact digits_zero
  · exact digits_value nonempty isDigit lead

end Decimal

namespace Segment

/-- A numeral that is a single zero or does not begin with one. -/
structure ShortNumeral (digits : List Char) : Prop extends Numeral digits where
  lead : digits = ['0'] ∨ digits.head? ≠ some '0'

/-- The token has no leading zeros, no blanks, and no mark but `H`. -/
inductive CanonicalToken : List Char → Prop where
  | bare {digits : List Char} (numeral : ShortNumeral digits) : CanonicalToken digits
  | marked {digits : List Char} (numeral : ShortNumeral digits) :
      CanonicalToken (digits ++ ['H'])

theorem shortNumeral_digits {n : Nat} (small : n < 0x80000000) :
    ShortNumeral (Decimal.digits n) := by
  refine ⟨numeral_digits small 0, ?_⟩
  by_cases zero : n = 0
  · subst zero
    exact Or.inl Decimal.digits_zero
  · exact Or.inr (Decimal.head?_digits_ne_zero (Nat.pos_of_ne_zero zero))

theorem ShortNumeral.digits_value {digits : List Char} (numeral : ShortNumeral digits) :
    Decimal.digits (Decimal.value digits) = digits :=
  Decimal.digits_value_of_short numeral.ne_nil numeral.isDigit numeral.lead

theorem format_plain (s : Segment) :
    s.format .plain = Decimal.digits s.index.toNat ++ s.markText false := by
  rw [format, Layout.number_plain]
  rfl

theorem format_plain_join {n : Nat} (small : n < 0x80000000) (hard : Bool) :
    (join (UInt32.ofNat n) hard).format .plain =
      Decimal.digits n ++ if hard then ['H'] else [] := by
  obtain ⟨index, marked⟩ := (join_eq_iff small).mp (rfl : join (UInt32.ofNat n) hard = _)
  rw [format_plain, markText, index, marked]
  rfl

/-- The canonical tokens are the written segments. -/
theorem canonicalToken_iff {token : List Char} :
    CanonicalToken token ↔ ∃ s : Segment, s.format .plain = token := by
  constructor
  · intro canonical
    cases canonical with
    | bare numeral =>
      refine ⟨join (UInt32.ofNat (Decimal.value token)) false, ?_⟩
      rw [format_plain_join numeral.value_lt, numeral.digits_value]
      simp
    | @marked digits numeral =>
      refine ⟨join (UInt32.ofNat (Decimal.value digits)) true, ?_⟩
      rw [format_plain_join numeral.value_lt, numeral.digits_value]
      rfl
  · rintro ⟨s, rfl⟩
    have numeral := shortNumeral_digits s.index_lt
    rw [format_plain, markText]
    cases s.hardened with
    | false => simpa using CanonicalToken.bare numeral
    | true => exact .marked numeral

end Segment

end KeyPath
