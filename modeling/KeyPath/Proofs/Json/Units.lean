import KeyPath.Proofs.Json.Spelling

/-!
# Code units

Units are those of a text exactly when every half of a pair has its other half next to it: a
character below the surrogates or above them is its own unit, and a pair names one character past
the units.  What is written for any units, paired or not, spells these units.
-/

namespace KeyPath.Json

theorem isTrail_iff {u : UInt16} :
    isTrail u = true ↔ 0xDC00 ≤ u.toNat ∧ u.toNat ≤ 0xDFFF := by
  simp [isTrail, UInt16.le_iff_toNat_le]

theorem isLead_iff {u : UInt16} :
    isLead u = true ↔ 0xD800 ≤ u.toNat ∧ u.toNat ≤ 0xDBFF := by
  simp [isLead, UInt16.le_iff_toNat_le]

theorem isPaired_single {u : UInt16} (own : u.toNat < 0xD800 ∨ 0xDFFF < u.toNat)
    (rest : List UInt16) : isPaired (u :: rest) = isPaired rest := by
  have noTrail : ¬ isTrail u = true := by
    rw [isTrail_iff]
    omega
  have noLead : ¬ isLead u = true := by
    rw [isLead_iff]
    omega
  rw [isPaired.eq_def]
  simp only [if_neg noTrail, if_neg noLead]

theorem isPaired_pair {u v : UInt16} (lead : isLead u = true) (trail : isTrail v = true)
    (rest : List UInt16) : isPaired (u :: v :: rest) = isPaired rest := by
  have noTrail : ¬ isTrail u = true := by
    rw [isLead_iff] at lead
    rw [isTrail_iff]
    omega
  rw [isPaired, if_neg noTrail, if_pos lead, trail, Bool.true_and]

/-- A character has one unit that is no surrogate, or a pair of surrogates. -/
theorem isPaired_unitsOf_append (c : Char) (rest : List UInt16) :
    isPaired (unitsOf c ++ rest) = isPaired rest := by
  have valid : c.toNat < 0xD800 ∨ 0xDFFF < c.toNat ∧ c.toNat < 0x110000 := c.valid
  simp only [unitsOf]
  split
  · next single =>
    have value : (UInt16.ofNat c.toNat).toNat = c.toNat := UInt16.toNat_ofNat_of_lt' single
    exact isPaired_single (by omega) rest
  · next pair =>
    have lead : isLead (UInt16.ofNat (0xD800 + (c.toNat - 0x10000) / 0x400)) = true := by
      rw [isLead_iff, UInt16.toNat_ofNat']
      omega
    have trail : isTrail (UInt16.ofNat (0xDC00 + (c.toNat - 0x10000) % 0x400)) = true := by
      rw [isTrail_iff, UInt16.toNat_ofNat']
      omega
    exact isPaired_pair lead trail rest

theorem exists_unitsOf_single {u : UInt16} (own : u.toNat < 0xD800 ∨ 0xDFFF < u.toNat) :
    ∃ c, unitsOf c = [u] := by
  have bound := u.toNat_lt
  have valid : u.toNat.isValidChar := own.imp_right fun high => ⟨high, by omega⟩
  refine ⟨Char.ofNat u.toNat, ?_⟩
  simp only [unitsOf, Text.toNat_ofNat_of_isValidChar valid]
  rw [if_pos bound, UInt16.ofNat_toNat]

theorem exists_unitsOf_pair {u v : UInt16} (lead : isLead u = true) (trail : isTrail v = true) :
    ∃ c, unitsOf c = [u, v] := by
  rw [isLead_iff] at lead
  rw [isTrail_iff] at trail
  have bound := u.toNat_lt
  have valid : (0x10000 + (u.toNat - 0xD800) * 0x400 + (v.toNat - 0xDC00)).isValidChar :=
    Or.inr ⟨by omega, by omega⟩
  have first : 0xD800 + (0x10000 + (u.toNat - 0xD800) * 0x400 + (v.toNat - 0xDC00) - 0x10000) /
      0x400 = u.toNat := by omega
  have second : 0xDC00 + (0x10000 + (u.toNat - 0xD800) * 0x400 + (v.toNat - 0xDC00) - 0x10000) %
      0x400 = v.toNat := by omega
  refine ⟨Char.ofNat (0x10000 + (u.toNat - 0xD800) * 0x400 + (v.toNat - 0xDC00)), ?_⟩
  simp only [unitsOf, Text.toNat_ofNat_of_isValidChar valid]
  rw [if_neg (by omega), first, second, UInt16.ofNat_toNat, UInt16.ofNat_toNat]

theorem exists_flatMap_unitsOf {us : List UInt16} (paired : isPaired us = true) :
    ∃ cs : List Char, cs.flatMap unitsOf = us := by
  fun_induction isPaired us with
  | case1 => exact ⟨[], rfl⟩
  | case2 => cases paired
  | case3 u noTrail lead v rest ih =>
    obtain ⟨trail, later⟩ := Bool.and_eq_true_iff.mp paired
    obtain ⟨c, first⟩ := exists_unitsOf_pair lead trail
    obtain ⟨cs, rfl⟩ := ih later
    exact ⟨c :: cs, by rw [List.flatMap_cons, first]; rfl⟩
  | case4 => cases paired
  | case5 u rest noTrail noLead ih =>
    rw [isTrail_iff] at noTrail
    rw [isLead_iff] at noLead
    obtain ⟨c, first⟩ := exists_unitsOf_single (u := u) (by omega)
    obtain ⟨cs, rfl⟩ := ih paired
    exact ⟨c :: cs, by rw [List.flatMap_cons, first]; rfl⟩

/-- Paired units are those that a text has. -/
theorem isPaired_iff {us : List UInt16} : isPaired us = true ↔ ∃ s, units s = us := by
  constructor
  · intro paired
    obtain ⟨cs, rfl⟩ := exists_flatMap_unitsOf paired
    exact ⟨String.ofList cs, by rw [units, String.toList_ofList]⟩
  · rintro ⟨s, rfl⟩
    rw [units]
    induction s.toList with
    | nil => rfl
    | cons c cs ih => rw [List.flatMap_cons, isPaired_unitsOf_append, ih]

theorem hexValue?_hexDigit {n : Nat} (small : n < 16) : hexValue? (hexDigit n) = some n := by
  have all : ∀ n : Fin 16, hexValue? (hexDigit n) = some n.val := by decide
  exact all ⟨n, small⟩

theorem hexUnit?_hexDigit (u : UInt16) :
    hexUnit? (hexDigit (u.toNat / 4096)) (hexDigit (u.toNat / 256 % 16))
      (hexDigit (u.toNat / 16 % 16)) (hexDigit (u.toNat % 16)) = some u := by
  have bound := u.toNat_lt
  rw [hexUnit?, hexValue?_hexDigit (by omega), hexValue?_hexDigit (by omega),
    hexValue?_hexDigit (by omega), hexValue?_hexDigit (by omega)]
  have whole : ((u.toNat / 4096 * 16 + u.toNat / 256 % 16) * 16 + u.toNat / 16 % 16) * 16 +
      u.toNat % 16 = u.toNat := by omega
  simp only [Option.bind_eq_bind, Option.bind_some, whole, UInt16.ofNat_toNat]
  rfl

/-- What is written for a unit spells the unit. -/
theorem Quoted.unitText_append (u : UInt16) {units : List UInt16} {cs : List Char}
    (later : Quoted units cs) : Quoted (u :: units) (unitText u ++ cs) := by
  simp only [unitText]
  split
  · next plain =>
    obtain ⟨low, high, noQuote, noEscape⟩ := plain
    have valid : u.toNat.isValidChar := Or.inl (by omega)
    have value : (Char.ofNat u.toNat).toNat = u.toNat := Text.toNat_ofNat_of_isValidChar valid
    have own : unitsOf (Char.ofNat u.toNat) = [u] := by
      rw [unitsOf, value, if_pos (by omega), UInt16.ofNat_toNat]
    have other {c : Char} (differs : u.toNat ≠ c.toNat) : Char.ofNat u.toNat ≠ c := by
      rintro rfl
      exact differs value.symm
    have step := Quoted.plain (other noQuote) (other noEscape) (by rwa [value]) later
    rwa [own] at step
  · exact .hex (hexUnit?_hexDigit u) later

theorem quoted_flatMap_unitText (units : List UInt16) :
    Quoted units (units.flatMap unitText) := by
  induction units with
  | nil => exact .nil
  | cons u units ih => exact ih.unitText_append u

end KeyPath.Json
