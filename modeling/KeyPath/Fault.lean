import KeyPath.Text.FormatSpec

/-!
# Faults

Why a segment or a path cannot be had: the index is too large, a token is malformed, or a position
is past the end.  A fault carries what its message tells, and the message is a function of it.
-/

namespace KeyPath

/-- What is wrong with a token. -/
inductive TokenFault where
  /-- There is no digit. -/
  | empty
  /-- There is a character that is neither a digit nor the one mark at the end. -/
  | invalidDigits
  /-- The number takes more than 31 bits. -/
  | indexOverflow
deriving DecidableEq, Repr

inductive Fault where
  | invalidIndex (index : UInt32)
  /-- The trimmed token, the byte at which it begins, and what is wrong with it. -/
  | malformed (token : String) (position : Nat) (reason : TokenFault)
  | outOfBounds (index len : Nat)
deriving DecidableEq, Repr

namespace TokenFault

def message : TokenFault → String
  | .empty => "the token does not contain an index number"
  | .invalidDigits =>
    "the token contains characters other than decimal digits and a single trailing hardened " ++
      "marker (`H`, `h` or `'`)"
  | .indexOverflow => "the index does not fit into 31 bits"

/-- The place of a reason among the reasons. -/
def rank : TokenFault → Nat
  | .empty => 0
  | .invalidDigits => 1
  | .indexOverflow => 2

end TokenFault

namespace Fault

def message : Fault → String
  | .invalidIndex index =>
    "child index " ++ Decimal.text index.toNat ++ " exceeds the maximal value of 2^31-1"
  | .malformed token position reason =>
    "malformed derivation path token `" ++ token ++ "` at byte " ++ Decimal.text position ++
      ": " ++ reason.message
  | .outOfBounds index len =>
    "segment #" ++ Decimal.text index ++ " is out of bounds for a path of " ++ Decimal.text len ++
      " segments"

/-- The message is the same under every layout. -/
def render (_ : FormatSpec) (fault : Fault) : String := fault.message

end Fault

end KeyPath
