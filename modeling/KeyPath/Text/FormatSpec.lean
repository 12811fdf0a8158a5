import KeyPath.Text.Layout

/-!
# Format specifications

The written form of a layout: `[[fill]align][sign]['#']['0'][width]['.' precision]['?']`, where
align is `<`, `^` or `>`, sign is `+` or `-`, and the question mark asks for the form that shows a
value's structure instead of its text.  Every part is taken as soon as it can be: a character is a
fill only before an alignment, and the first zero is the flag.
-/

namespace KeyPath

structure FormatSpec where
  layout : Layout
  /-- Asks for a value's structure. -/
  structural : Bool
deriving DecidableEq, Repr

namespace FormatSpec

def readAlignChar? (c : Char) : Option Align :=
  if c = '<' then some .left
  else if c = '^' then some .centre
  else if c = '>' then some .right
  else none

/-- The fill and the alignment, if the text begins with them. -/
def readAlign (cs : List Char) : (Char × Option Align) × List Char :=
  match cs with
  | fill :: a :: rest =>
    match readAlignChar? a with
    | some align => ((fill, some align), rest)
    | none =>
      match readAlignChar? fill with
      | some align => ((' ', some align), a :: rest)
      | none => ((' ', none), cs)
  | [a] =>
    match readAlignChar? a with
    | some align => ((' ', some align), [])
    | none => ((' ', none), cs)
  | [] => ((' ', none), [])

def readSign (cs : List Char) : Option SignFlag × List Char :=
  match cs with
  | '+' :: rest => (some .plus, rest)
  | '-' :: rest => (some .minus, rest)
  | _ => (none, cs)

/-- Whether the text begins with the flag `flag`, and the text after it. -/
def readFlag (flag : Char) (cs : List Char) : Bool × List Char :=
  match cs with
  | c :: rest => if c = flag then (true, rest) else (false, cs)
  | [] => (false, [])

/-- The number the text begins with; no digits are read as zero. -/
def readNumber (cs : List Char) : Nat × List Char :=
  (Decimal.value (cs.takeWhile Char.isDigit), cs.dropWhile Char.isDigit)

def readPrecision (cs : List Char) : Option Nat × List Char :=
  match cs with
  | '.' :: rest =>
    let (precision, rest) := readNumber rest
    (some precision, rest)
  | _ => (none, cs)

def ofChars? (cs : List Char) : Option FormatSpec :=
  let ((fill, align), cs) := readAlign cs
  let (sign, cs) := readSign cs
  let (alternate, cs) := readFlag '#' cs
  let (zeros, cs) := readFlag '0' cs
  let (width, cs) := readNumber cs
  let (precision, cs) := readPrecision cs
  let (structural, cs) := readFlag '?' cs
  if cs.isEmpty then
    some ⟨{ fill, align, sign, alternate, zeros, width, precision }, structural⟩
  else none

def ofString? (s : String) : Option FormatSpec := ofChars? s.toList

example : ofString? "<012" =
    some ⟨{ align := some .left, zeros := true, width := 12 }, false⟩ := by decide +kernel
example : ofString? "0^9" =
    some ⟨{ fill := '0', align := some .centre, width := 9 }, false⟩ := by decide +kernel
example : ofString? "#?" = some ⟨{ alternate := true }, true⟩ := by decide +kernel

end FormatSpec

end KeyPath
