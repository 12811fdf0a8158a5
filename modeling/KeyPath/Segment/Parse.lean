import KeyPath.Record
import KeyPath.Text.Pieces

/-!
# Reading segments

A token is a run of decimal digits, of any length and with leading zeros allowed, and after it, for
a hardened segment, optional blanks and exactly one mark: `H`, `h` or an apostrophe.  There is no
sign.  A token without digits is refused before one with a wrong character, and that before one
whose number is too large.
-/

namespace KeyPath.Segment

open Text

/-- Whether a character marks a hardened segment. -/
def isMark (c : Char) : Bool := c = 'H' || c = 'h' || c = '\x27'

/-- A token without its mark and the blanks before the mark, and whether there was one. -/
def splitMark (token : List Char) : List Char × Bool :=
  match token.getLast? with
  | some c => if isMark c then (trimEnd token.dropLast, true) else (token, false)
  | none => ([], false)

/-- The segment of a numeral, whose number has to fit a word and then an index. -/
def ofNumeral (digits : List Char) (hard : Bool) : Except TokenFault Segment :=
  match Decimal.readWord? digits with
  | none => .error .indexOverflow
  | some index => if boundary ≤ index then .error .indexOverflow else .ok (join index hard)

/-- The segment that a trimmed token stands for. -/
def ofToken (token : List Char) : Except TokenFault Segment :=
  let (digits, hard) := splitMark token
  if digits.isEmpty then .error .empty
  else if !digits.all Char.isDigit then .error .invalidDigits
  else ofNumeral digits hard

/-- Reads a segment with blanks around it, and reports a refusal.  The fault has the trimmed token
and the number of bytes before it, which are those of the text less those from the token on. -/
def parse (s : String) : Logged (Except Fault Segment) := do
  let token := trim s.toList
  let position := byteCount s.toList - byteCount (trimStart s.toList)
  match ofToken token with
  | .ok segment => return .ok segment
  | .error reason =>
    let token := String.ofList token
    Logged.emit (.rejectedSegment token reason)
    return .error (.malformed token position reason)

theorem splitMark_nil : splitMark [] = ([], false) := rfl

theorem splitMark_concat (cs : List Char) (c : Char) :
    splitMark (cs ++ [c]) = if isMark c then (trimEnd cs, true) else (cs ++ [c], false) := by
  simp [splitMark]

/-- A number that fits no word and one that only fits no index are refused alike, so the number
decides. -/
theorem ofNumeral_eq {digits : List Char} (nonempty : digits ≠ [])
    (isDigit : ∀ c ∈ digits, c.isDigit = true) (hard : Bool) :
    ofNumeral digits hard =
      if Decimal.value digits < 0x80000000 then
        .ok (join (UInt32.ofNat (Decimal.value digits)) hard)
      else .error .indexOverflow := by
  rw [ofNumeral, Decimal.readWord?_of_isDigit nonempty isDigit, Decimal.word?]
  by_cases fits : Decimal.value digits < UInt32.size
  · have size := UInt32.toNat_ofNat_of_lt' fits
    simp only [if_pos fits, UInt32.le_iff_toNat_le, size, toNat_boundary]
    by_cases small : Decimal.value digits < 0x80000000
    · rw [if_pos small, if_neg (Nat.not_le.mpr small)]
    · rw [if_neg small, if_pos (Nat.not_lt.mp small)]
  · have large : ¬ Decimal.value digits < 0x80000000 := by
      rw [UInt32.size] at fits
      omega
    rw [if_neg fits, if_neg large]

theorem value_parse (s : String) :
    (parse s).value =
      (ofToken (trim s.toList)).mapError (.malformed (String.ofList (trim s.toList))
        (byteCount (leadingBlanks s.toList))) := by
  rw [← byteCount_sub_trimStart]
  cases eq : ofToken (trim s.toList) <;> simp [parse, eq] <;> rfl

/-- Only a refusal is reported. -/
theorem records_parse (s : String) :
    (parse s).records =
      match ofToken (trim s.toList) with
      | .ok _ => []
      | .error reason => [.rejectedSegment (String.ofList (trim s.toList)) reason] := by
  cases eq : ofToken (trim s.toList) <;> simp [parse, eq]

end KeyPath.Segment
