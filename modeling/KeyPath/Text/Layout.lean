import KeyPath.Text.Decimal

/-!
# Laying out numbers

A layout says how a number fills a field: the least width in characters, what fills the rest and
on which side, whether a plus sign is written, and whether zeros go between sign and digits.  Only
unsigned numbers are laid out, so a minus flag and a precision change nothing.
-/

namespace KeyPath

inductive Align where
  | left
  | centre
  | right
deriving DecidableEq, Repr

inductive SignFlag where
  | plus
  | minus
deriving DecidableEq, Repr

structure Layout where
  fill : Char := ' '
  align : Option Align := none
  sign : Option SignFlag := none
  /-- Asks for the other of the two spellings of a value, where it has two. -/
  alternate : Bool := false
  zeros : Bool := false
  width : Nat := 0
  precision : Option Nat := none
deriving DecidableEq, Repr

namespace Layout

/-- No padding, no sign, the main spelling. -/
def plain : Layout := {}

/-- No padding, no sign, the other spelling. -/
def other : Layout := { alternate := true }

/-- The sign in front of a number. -/
def signText (layout : Layout) : List Char :=
  if layout.sign = some .plus then ['+'] else []

/-- How many of `missing` fill characters come first; of two unequal halves it is the smaller. -/
def fillBefore (layout : Layout) (missing : Nat) : Nat :=
  match layout.align with
  | some .left => 0
  | some .centre => missing / 2
  | some .right => missing
  | none => missing

/-- A text with the fill around it, `missing` characters in all. -/
def fillAround (layout : Layout) (missing : Nat) (cs : List Char) : List Char :=
  List.replicate (layout.fillBefore missing) layout.fill ++ cs ++
    List.replicate (missing - layout.fillBefore missing) layout.fill

/-- A number in its field.  With the zero flag, fill and alignment do not matter. -/
def number (layout : Layout) (n : Nat) : List Char :=
  let digits := Decimal.digits n
  let missing := layout.width - (layout.signText.length + digits.length)
  if layout.zeros then layout.signText ++ List.replicate missing '0' ++ digits
  else layout.fillAround missing (layout.signText ++ digits)

@[simp] theorem number_plain (n : Nat) : plain.number n = Decimal.digits n := by
  simp [number, plain, fillAround, fillBefore, signText]

example : ({ fill := '*', align := some .centre, width := 5 } : Layout).number 44 =
    "*44**".toList := by simp [number, fillAround, fillBefore, signText, Decimal.digits,
      Decimal.digitChar]

end Layout

end KeyPath
