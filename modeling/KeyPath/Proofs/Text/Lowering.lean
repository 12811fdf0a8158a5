import KeyPath.Text.Blank
import KeyPath.Text.Decimal
import KeyPath.Text.LowerCase

/-!
# Lower-casing plain texts

A character is plain when it is an ASCII character or a blank.  Lower-casing changes no plain
character but the ASCII capitals, and what it makes of any other character is not plain either, with
one exception: the Kelvin sign becomes the letter k.  So a text whose lower-case form is plain and
has no k was plain to begin with, and lower-casing it was folding its ASCII capitals.
-/

namespace KeyPath.Text

def isPlain (c : Char) : Bool := c.toNat < 0x80 || isBlank c

/-- The text with its ASCII capitals, and no other characters, in lower case. -/
def foldCase (cs : List Char) : List Char := cs.map Char.toLower

theorem toNat_toLower (c : Char) :
    c.toLower.toNat = if 0x41 ≤ c.toNat ∧ c.toNat ≤ 0x5A then c.toNat + 0x20 else c.toNat := by
  have low : 'A'.val ≤ c.val ↔ 0x41 ≤ c.toNat := UInt32.le_iff_toNat_le
  have high : c.val ≤ 'Z'.val ↔ c.toNat ≤ 0x5A := UInt32.le_iff_toNat_le
  have capital : (c.val ≥ 'A'.val ∧ c.val ≤ 'Z'.val) ↔ 0x41 ≤ c.toNat ∧ c.toNat ≤ 0x5A :=
    and_congr low high
  unfold Char.toLower
  by_cases inside : 0x41 ≤ c.toNat ∧ c.toNat ≤ 0x5A
  · rw [dif_pos (capital.mpr inside), if_pos inside]
    change (c.val + ('a'.val - 'A'.val)).toNat = _
    rw [UInt32.toNat_add]
    have : ('a'.val - 'A'.val).toNat = 0x20 := rfl
    have : c.val.toNat = c.toNat := rfl
    omega
  · rw [dif_neg (mt capital.mp inside), if_neg inside]

theorem toLower_eq_self {c : Char} (other : ¬ (0x41 ≤ c.toNat ∧ c.toNat ≤ 0x5A)) :
    c.toLower = c := by
  apply Char.toNat_inj.mp
  rw [toNat_toLower, if_neg other]

/-- What is the same for all ASCII letters does not depend on the case. -/
theorem apply_toLower {α : Type} {f : Char → α} {a : α}
    (letters : ∀ c : Char, 0x41 ≤ c.toNat → c.toNat ≤ 0x7A → f c = a) (c : Char) :
    f c.toLower = f c := by
  by_cases capital : 0x41 ≤ c.toNat ∧ c.toNat ≤ 0x5A
  · have lower := toNat_toLower c
    rw [if_pos capital] at lower
    rw [letters c (by omega) (by omega), letters c.toLower (by omega) (by omega)]
  · rw [toLower_eq_self capital]

theorem isBlank_toLower (c : Char) : isBlank c.toLower = isBlank c := by
  refine apply_toLower (a := false) ?_ c
  intro c least most
  rw [Bool.eq_false_iff]
  intro blank
  simp only [isBlank, Bool.or_eq_true, Bool.and_eq_true, decide_eq_true_eq, beq_iff_eq] at blank
  omega

theorem isPlain_toLower (c : Char) : isPlain c.toLower = isPlain c := by
  refine apply_toLower (a := true) ?_ c
  intro c least most
  have first : c.toNat < 0x80 := by omega
  simp [isPlain, first]

theorem trimEnd_foldCase (cs : List Char) : trimEnd (foldCase cs) = foldCase (trimEnd cs) := by
  have same : isBlank ∘ Char.toLower = isBlank := funext isBlank_toLower
  rw [trimEnd, trimEnd, foldCase, foldCase, ← List.map_reverse, List.dropWhile_map, same,
    List.map_reverse]

theorem trim_foldCase (cs : List Char) : trim (foldCase cs) = foldCase (trim cs) := by
  have same : isBlank ∘ Char.toLower = isBlank := funext isBlank_toLower
  rw [trim, trim, ← trimEnd_foldCase, trimStart, trimStart, foldCase, foldCase, List.dropWhile_map,
    same]

/-- The ranges of the plain characters. -/
def plainRanges : List (Nat × Nat) := [
  (0, 0x7F), (0x85, 0x85), (0xA0, 0xA0), (0x1680, 0x1680), (0x2000, 0x200A), (0x2028, 0x2029),
  (0x202F, 0x202F), (0x205F, 0x205F), (0x3000, 0x3000)]

theorem isPlain_iff {c : Char} : isPlain c = true ↔ inRanges plainRanges c.toNat = true := by
  simp only [isPlain, isBlank, inRanges, plainRanges, List.any_cons, List.any_nil,
    Bool.or_eq_true, Bool.and_eq_true, decide_eq_true_eq, beq_iff_eq, Bool.false_eq_true, or_false]
  omega

/-- No plain character is in the range. -/
def Clear (low high : Nat) : Prop := ∀ range ∈ plainRanges, high < range.1 ∨ range.2 < low

instance (low high : Nat) : Decidable (Clear low high) :=
  inferInstanceAs (Decidable (∀ range ∈ plainRanges, _))

theorem isPlain_of_clear {low high : Nat} (clear : Clear low high) {c : Char} (least : low ≤ c.toNat)
    (most : c.toNat ≤ high) : isPlain c = false := by
  rw [← Bool.not_eq_true, isPlain_iff, inRanges, List.any_eq_true]
  rintro ⟨range, member, inside⟩
  have apart := clear range member
  simp only [Bool.and_eq_true, decide_eq_true_eq] at inside
  omega

namespace CaseRow

/-- The row neither takes plain letters nor gives them plain forms. -/
structure Apart (row : CaseRow) : Prop where
  letters : Clear row.first row.last
  forms : Clear row.image (row.lower row.last)
  valid : row.lower row.last < 0xD800 ∨ 0xDFFF < row.image ∧ row.lower row.last < 0x110000

instance (row : CaseRow) : Decidable row.Apart :=
  decidable_of_iff
    (Clear row.first row.last ∧ Clear row.image (row.lower row.last) ∧
      (row.lower row.last < 0xD800 ∨ 0xDFFF < row.image ∧ row.lower row.last < 0x110000))
    ⟨fun ⟨letters, forms, valid⟩ => ⟨letters, forms, valid⟩,
      fun apart => ⟨apart.letters, apart.forms, apart.valid⟩⟩

theorem bounds_of_covers {row : CaseRow} {n : Nat} (covers : row.covers n = true) :
    row.first ≤ n ∧ n ≤ row.last := by
  simp only [CaseRow.covers, Bool.and_eq_true, decide_eq_true_eq] at covers
  exact covers.1

def capitals : CaseRow := ⟨0x41, 0x5A, 1, 0x61⟩

def kelvin : CaseRow := ⟨0x212A, 0x212A, 1, 0x6B⟩

end CaseRow

/-- Only the row of the ASCII capitals takes plain letters, and besides it only the row of the
Kelvin sign gives a plain form. -/
theorem row_cases : ∀ row ∈ lowerRows, row = CaseRow.capitals ∨ row = CaseRow.kelvin ∨ row.Apart := by
  decide +kernel

variable {c : Char} {before cs ds : List Char}

theorem lowerChar_of_plain (plain : isPlain c = true) : lowerChar c = c.toLower := by
  apply Char.toNat_inj.mp
  rw [toNat_toLower]
  by_cases capital : 0x41 ≤ c.toNat ∧ c.toNat ≤ 0x5A
  · have covers : CaseRow.capitals.covers c.toNat = true := by
      simp [CaseRow.covers, CaseRow.capitals, capital, Nat.mod_one]
    have found : lowerRows.find? (·.covers c.toNat) = some CaseRow.capitals :=
      List.find?_cons_of_pos covers
    have valid : (CaseRow.capitals.lower c.toNat).isValidChar := by
      left
      simp only [CaseRow.lower, CaseRow.capitals]
      omega
    simp only [lowerChar, found, toNat_ofNat_of_isValidChar valid, if_pos capital]
    simp only [CaseRow.lower, CaseRow.capitals]
    omega
  · have none : lowerRows.find? (·.covers c.toNat) = none := by
      rw [List.find?_eq_none]
      intro row member covers
      have bounds := CaseRow.bounds_of_covers covers
      rcases row_cases row member with rfl | rfl | apart
      · exact capital bounds
      · rw [isPlain_of_clear (by decide : Clear 0x212A 0x212A) bounds.1 bounds.2] at plain
        cases plain
      · rw [isPlain_of_clear apart.letters bounds.1 bounds.2] at plain
        cases plain
    simp only [lowerChar, none, if_neg capital]

theorem lowerChar_of_not_plain (other : isPlain c = false) :
    lowerChar c = 'k' ∨ isPlain (lowerChar c) = false := by
  unfold lowerChar
  cases found : lowerRows.find? (·.covers c.toNat) with
  | none => exact Or.inr other
  | some row =>
    have covers : row.covers c.toNat = true :=
      List.find?_some (p := fun row : CaseRow => row.covers c.toNat) found
    have bounds := CaseRow.bounds_of_covers covers
    rcases row_cases row (List.mem_of_find?_eq_some found) with rfl | rfl | apart
    · have plain : isPlain c = true := by
        have least : c.toNat < 0x80 := Nat.lt_of_le_of_lt bounds.2 (by decide)
        simp [isPlain, least]
      rw [other] at plain
      cases plain
    · have sign : c.toNat = 0x212A := Nat.le_antisymm bounds.2 bounds.1
      rw [sign]
      exact Or.inl rfl
    · right
      have valid : (row.lower c.toNat).isValidChar := by
        have valid := apart.valid
        simp only [CaseRow.lower] at valid ⊢
        rcases valid with low | ⟨high, top⟩
        · left
          omega
        · right
          omega
      apply isPlain_of_clear apart.forms
      · rw [toNat_ofNat_of_isValidChar valid]
        exact Nat.le_add_right row.image _
      · rw [toNat_ofNat_of_isValidChar valid]
        simp only [CaseRow.lower]
        omega

theorem lowerAt_of_plain (plain : isPlain c = true) (before after : List Char) :
    lowerAt before c after = [c.toLower] := by
  have notSigma : c ≠ 'Σ' := by
    rintro rfl
    exact absurd plain (by decide)
  have notDotted : c ≠ 'İ' := by
    rintro rfl
    exact absurd plain (by decide)
  rw [lowerAt, if_neg notSigma, if_neg notDotted, lowerChar_of_plain plain]

/-- What is made of a character that is not plain shows it. -/
theorem exists_mem_lowerAt (other : isPlain c = false) (before after : List Char) :
    ∃ d ∈ lowerAt before c after, d = 'k' ∨ isPlain d = false := by
  unfold lowerAt
  by_cases sigma : c = 'Σ'
  · rw [if_pos sigma]
    refine ⟨_, List.mem_singleton_self _, Or.inr ?_⟩
    unfold lowerSigma
    split <;> decide
  by_cases dotted : c = 'İ'
  · rw [if_neg sigma, if_pos dotted]
    exact ⟨'\u0307', by simp, Or.inr (by decide)⟩
  · rw [if_neg sigma, if_neg dotted]
    exact ⟨_, List.mem_singleton_self _, lowerChar_of_not_plain other⟩

theorem lowerFrom_of_plain (plain : ∀ c ∈ cs, isPlain c = true) (before : List Char) :
    lowerFrom before cs = foldCase cs := by
  induction cs generalizing before with
  | nil => rfl
  | cons c cs ih =>
    have first : isPlain c = true := plain c List.mem_cons_self
    have later : ∀ d ∈ cs, isPlain d = true := fun d member => plain d (List.mem_cons_of_mem c member)
    rw [lowerFrom, lowerAt_of_plain first, ih later]
    rfl

theorem isPlain_of_lowerFrom
    (plain : ∀ d ∈ lowerFrom before cs, isPlain d = true ∧ d ≠ 'k') : ∀ c ∈ cs, isPlain c = true := by
  induction cs generalizing before with
  | nil => simp
  | cons c cs ih =>
    rw [lowerFrom] at plain
    intro d member
    rcases List.mem_cons.mp member with rfl | later
    · cases other : isPlain d with
      | true => rfl
      | false =>
        obtain ⟨e, made, shows⟩ := exists_mem_lowerAt other before cs
        have fine := plain e (List.mem_append_left _ made)
        rcases shows with k | notPlain
        · exact absurd k fine.2
        · rw [fine.1] at notPlain
          cases notPlain
    · exact ih (fun e made => plain e (List.mem_append_right _ made)) d later

/-- To have a plain lower-case form without a k is to be that form up to ASCII capitals. -/
theorem lowerCase_eq_iff (plain : ∀ d ∈ ds, isPlain d = true ∧ d ≠ 'k') :
    lowerCase cs = ds ↔ foldCase cs = ds := by
  rw [lowerCase_eq_lowerFrom]
  constructor
  · rintro rfl
    exact (lowerFrom_of_plain (isPlain_of_lowerFrom plain) []).symm
  · rintro rfl
    apply lowerFrom_of_plain
    intro c member
    rw [← isPlain_toLower]
    exact (plain c.toLower (List.mem_map_of_mem member)).1

end KeyPath.Text
