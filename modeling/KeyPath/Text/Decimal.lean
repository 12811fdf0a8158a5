/-!
# Decimal numerals

The digits of a natural number without leading zeros, and the number that a run of digits stands
for.  Leading zeros and any length are allowed when reading; nothing is cut off or wrapped.  A word
is read digit by digit, and not at all once the digits so far stand for more than it can hold, which
is when the whole numeral does.
-/

namespace KeyPath

theorem Text.toNat_ofNat_of_isValidChar {n : Nat} (valid : n.isValidChar) :
    (Char.ofNat n).toNat = n := by
  rw [Char.ofNat, dif_pos valid]
  rfl

namespace Decimal

/-- The digit that stands for `n % 10`. -/
def digitChar (n : Nat) : Char := Char.ofNat (48 + n % 10)

/-- The decimal digits of a number, most significant first; zero is written `0`. -/
def digits (n : Nat) : List Char :=
  if n < 10 then [digitChar n] else digits (n / 10) ++ [digitChar n]
termination_by n
decreasing_by omega

/-- The value of a digit, counted from the character `0`. -/
def digitValue (c : Char) : Nat := c.toNat - 48

/-- The number that a run of digits stands for. -/
def value (cs : List Char) : Nat := cs.foldl (fun n c => 10 * n + digitValue c) 0

/-- The word of a number, unless the number is too large for one. -/
def word? (n : Nat) : Option UInt32 := if n < UInt32.size then some (UInt32.ofNat n) else none

/-- The word of the digits so far and one more, if there is one. -/
def pushDigit? (word : UInt32) (c : Char) : Option UInt32 :=
  if c.isDigit then word? (10 * word.toNat + digitValue c) else none

/-- Reads a word of at least one digit, with a plus sign in front or without. -/
def readWord? : List Char → Option UInt32
  | [] => none
  | '+' :: [] => none
  | '+' :: cs => cs.foldlM pushDigit? 0
  | cs => cs.foldlM pushDigit? 0

/-- The digits of a number as a string. -/
def text (n : Nat) : String := String.ofList (digits n)

theorem digits_of_lt {n : Nat} (h : n < 10) : digits n = [digitChar n] := by
  rw [digits, if_pos h]

theorem digits_of_le {n : Nat} (h : 10 ≤ n) : digits n = digits (n / 10) ++ [digitChar n] := by
  rw [digits, if_neg (by omega)]

@[simp] theorem value_nil : value [] = 0 := rfl

@[simp] theorem value_append_singleton (cs : List Char) (c : Char) :
    value (cs ++ [c]) = 10 * value cs + digitValue c := by simp [value]

theorem toNat_digitChar (n : Nat) : (digitChar n).toNat = 48 + n % 10 := by
  have valid : Nat.isValidChar (48 + n % 10) := by
    left
    omega
  exact Text.toNat_ofNat_of_isValidChar valid

@[simp] theorem digitValue_digitChar (n : Nat) : digitValue (digitChar n) = n % 10 := by
  rw [digitValue, toNat_digitChar]
  omega

theorem isDigit_digitChar (n : Nat) : (digitChar n).isDigit = true := by
  have h := toNat_digitChar n
  simp only [Char.isDigit, ge_iff_le, Bool.and_eq_true, decide_eq_true_eq, UInt32.le_iff_toNat_le]
  change 48 ≤ (digitChar n).toNat ∧ (digitChar n).toNat ≤ 57
  omega

theorem isDigit_of_mem_digits {n : Nat} {c : Char} (h : c ∈ digits n) : c.isDigit = true := by
  induction n using digits.induct with
  | case1 n small =>
    rw [digits_of_lt small] at h
    rw [List.mem_singleton.mp h]
    exact isDigit_digitChar n
  | case2 n large ih =>
    rw [digits_of_le (by omega), List.mem_append, List.mem_singleton] at h
    rcases h with front | rfl
    · exact ih front
    · exact isDigit_digitChar n

theorem digits_ne_nil (n : Nat) : digits n ≠ [] := by
  by_cases small : n < 10
  · simp [digits_of_lt small]
  · simp [digits_of_le (Nat.le_of_not_lt small)]

/-- Reading the digits of a number gives the number. -/
theorem value_digits (n : Nat) : value (digits n) = n := by
  induction n using digits.induct with
  | case1 n small =>
    rw [digits_of_lt small]
    have := value_append_singleton [] (digitChar n)
    simp at this
    omega
  | case2 n large ih =>
    rw [digits_of_le (by omega), value_append_singleton, ih, digitValue_digitChar]
    omega

/-- Only zero is written with a zero in front. -/
theorem head?_digits_ne_zero {n : Nat} (h : 0 < n) : (digits n).head? ≠ some '0' := by
  induction n using digits.induct with
  | case1 n small =>
    rw [digits_of_lt small, List.head?_cons]
    intro eq
    have := congrArg Char.toNat (Option.some.inj eq)
    rw [toNat_digitChar] at this
    change 48 + n % 10 = 48 at this
    omega
  | case2 n large ih =>
    have front := ih (by omega)
    rw [digits_of_le (by omega), List.head?_append]
    cases eq : (digits (n / 10)).head? with
    | none => exact absurd (List.head?_eq_none_iff.mp eq) (digits_ne_nil _)
    | some c => rwa [eq] at front

/-- More digits never make a number smaller. -/
theorem le_foldl (cs : List Char) (n : Nat) :
    n ≤ cs.foldl (fun n c => 10 * n + digitValue c) n := by
  induction cs generalizing n with
  | nil => exact Nat.le_refl n
  | cons c cs ih =>
    have rest := ih (10 * n + digitValue c)
    rw [List.foldl_cons]
    omega

theorem word?_toNat (word : UInt32) : word? word.toNat = some word := by
  rw [word?, if_pos word.toNat_lt, UInt32.ofNat_toNat]

theorem word?_eq_none {n : Nat} (large : UInt32.size ≤ n) : word? n = none :=
  if_neg (Nat.not_lt.mpr large)

/-- Reading digits on from a word stops exactly when the whole number does not fit. -/
theorem foldlM_pushDigit? {cs : List Char} (digits : ∀ c ∈ cs, c.isDigit = true) (word : UInt32) :
    cs.foldlM pushDigit? word =
      word? (cs.foldl (fun n c => 10 * n + digitValue c) word.toNat) := by
  induction cs generalizing word with
  | nil => exact (word?_toNat word).symm
  | cons c cs ih =>
    have later : ∀ d ∈ cs, d.isDigit = true := fun d member =>
      digits d (List.mem_cons_of_mem c member)
    rw [List.foldlM_cons, List.foldl_cons, pushDigit?, if_pos (digits c List.mem_cons_self)]
    by_cases fits : 10 * word.toNat + digitValue c < UInt32.size
    · have size := UInt32.toNat_ofNat_of_lt' fits
      rw [word?, if_pos fits]
      have rest := ih later (UInt32.ofNat (10 * word.toNat + digitValue c))
      rwa [size] at rest
    · have large := Nat.not_lt.mp fits
      rw [word?_eq_none large, word?_eq_none (Nat.le_trans large (le_foldl cs _))]
      rfl

/-- A numeral is read as a word exactly when its number is less than the size of the words. -/
theorem readWord?_of_isDigit {cs : List Char} (nonempty : cs ≠ [])
    (digits : ∀ c ∈ cs, c.isDigit = true) : readWord? cs = word? (value cs) := by
  have whole := foldlM_pushDigit? digits 0
  cases cs with
  | nil => exact absurd rfl nonempty
  | cons c cs =>
    have noSign : c ≠ '+' := by
      rintro rfl
      exact absurd (digits '+' List.mem_cons_self) (by decide)
    rw [readWord?]
    · exact whole
    all_goals simp [noSign]

theorem digits_injective {m n : Nat} (h : digits m = digits n) : m = n := by
  rw [← value_digits m, h, value_digits]

example : value "0044".toList = 44 := by decide
example : readWord? "+4294967295".toList = some 0xffffffff := by decide
example : readWord? "4294967296".toList = none := by decide

end Decimal

end KeyPath
