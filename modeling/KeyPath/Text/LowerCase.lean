import KeyPath.Text.CaseTable

/-!
# Lower-case text

Unicode's full lower-casing, without the rules of particular languages.  Each character has a form
of its own, with two exceptions: the capital I with a dot becomes two characters, and a capital
sigma becomes a final sigma where a word ends.  A word ends at a sigma that has a cased letter
before it and none after it, when the ignorable characters next to it are passed over.
-/

namespace KeyPath.Text

def isCased (c : Char) : Bool := inRanges casedRanges c.toNat

def isCaseIgnorable (c : Char) : Bool := inRanges ignorableRanges c.toNat

/-- The lower-case form of a character other than the dotted capital I, regardless of place. -/
def lowerChar (c : Char) : Char :=
  match lowerRows.find? (·.covers c.toNat) with
  | some row => Char.ofNat (row.lower c.toNat)
  | none => c

/-- Whether the first character that is not ignorable is a cased letter. -/
def startsCased (cs : List Char) : Bool :=
  match cs.dropWhile isCaseIgnorable with
  | c :: _ => isCased c
  | [] => false

/-- The form of a capital sigma, from the text before it (nearest first) and the text after it. -/
def lowerSigma (before after : List Char) : Char :=
  if startsCased before && !startsCased after then 'ς' else 'σ'

/-- The lower-case form of `c` in its place. -/
def lowerAt (before : List Char) (c : Char) (after : List Char) : List Char :=
  if c = 'Σ' then [lowerSigma before after]
  else if c = 'İ' then ['i', '\u0307']
  else [lowerChar c]

/-- The lower-case forms of a text that follows `before` (nearest first), in reverse and in front
of `done`. -/
def lowerOnto (before done : List Char) : List Char → List Char
  | [] => done
  | c :: after => lowerOnto (c :: before) ((lowerAt before c after).reverse ++ done) after

def lowerCase (cs : List Char) : List Char := (lowerOnto [] [] cs).reverse

/-- The lower-case forms of a text that follows `before`, character by character. -/
def lowerFrom (before : List Char) : List Char → List Char
  | [] => []
  | c :: after => lowerAt before c after ++ lowerFrom (c :: before) after

theorem lowerOnto_eq (before done cs : List Char) :
    lowerOnto before done cs = (lowerFrom before cs).reverse ++ done := by
  induction cs generalizing before done with
  | nil => rfl
  | cons c cs ih => simp [lowerOnto, lowerFrom, ih]

theorem lowerCase_eq_lowerFrom (cs : List Char) : lowerCase cs = lowerFrom [] cs := by
  simp [lowerCase, lowerOnto_eq]

example : lowerCase "BIP86".toList = "bip86".toList := by decide +kernel
example : lowerCase "ΟΔΟΣ ΣΟΣ".toList = "οδος σος".toList := by decide +kernel
example : lowerCase "\u212aİ".toList = "ki\u0307".toList := by decide +kernel
example : lowerCase "\u1c89\ua7cb".toList = "\u1c8a\u0264".toList := by decide +kernel
example : lowerCase "A\u1acfΣ A\u0295Σ".toList = "a\u1acfς a\u0295σ".toList := by decide +kernel

end KeyPath.Text
