import KeyPath.Json.Value
import KeyPath.Purpose.Basic

/-!
# JSON forms

A segment is the number of its word.  A path is an object with the words under `segments` and the
private flag under `hasPrivateKey`, each of them exactly once; other members do not matter, and an
array of just the two is read too.  A kind of keys and a purpose are names, and are also read from
an object whose only member has the name and is null.
-/

namespace KeyPath

open Json

namespace Segment

def toJson (s : Segment) : Value := .number (Decimal.digits s.word.toNat)

/-- The segment of a number that is written without sign, fraction and exponent and fits. -/
def ofJson? : Value → Option Segment
  | .number spelling =>
    if isNatural spelling && Decimal.value spelling < 0x100000000 then
      some ⟨UInt32.ofNat (Decimal.value spelling)⟩
    else none
  | _ => none

/-- The digits of a number are one of JSON's natural numbers. -/
theorem isNatural_digits (n : Nat) : isNatural (Decimal.digits n) = true := by
  have all : (Decimal.digits n).all Char.isDigit = true :=
    List.all_eq_true.mpr fun _ h => Decimal.isDigit_of_mem_digits h
  have front : (Decimal.digits n).head? ≠ some '0' ∨ (Decimal.digits n).length = 1 := by
    by_cases zero : n = 0
    · subst zero
      right
      rw [Decimal.digits_of_lt (by decide)]
      rfl
    · exact Or.inl (Decimal.head?_digits_ne_zero (Nat.pos_of_ne_zero zero))
  simpa [isNatural, isDigits, all, Decimal.digits_ne_nil] using front

theorem ofJson?_toJson (s : Segment) : ofJson? s.toJson = some s := by
  have fits : s.word.toNat < 4294967296 := s.word.toNat_lt
  simp [ofJson?, toJson, isNatural_digits, Decimal.value_digits, fits]

def toJsonText (s : Segment) : String := s.toJson.text

def ofJsonText? (text : String) : Option Segment := (Value.read? text).bind ofJson?

end Segment

namespace Path

def segmentsName : List UInt16 := units "segments"

def privateName : List UInt16 := units "hasPrivateKey"

def toJson (p : Path) : Value :=
  .object [(segmentsName, .array (p.segments.map Segment.toJson)),
    (privateName, .bool p.isPrivate)]

/-- The value of the one member with a name. -/
def member? (name : List UInt16) (members : List (List UInt16 × Value)) : Option Value :=
  match members.filter (·.1 == name) with
  | [(_, v)] => some v
  | _ => none

def segmentsOfJson? : Value → Option (List Segment)
  | .array items => items.mapM Segment.ofJson?
  | _ => none

def flagOfJson? : Value → Option Bool
  | .bool b => some b
  | _ => none

def ofParts? (segments flag : Value) : Option Path := do
  let segments ← segmentsOfJson? segments
  let flag ← flagOfJson? flag
  return ⟨.ofFlag flag, segments⟩

def ofJson? : Value → Option Path
  | .object members =>
    if members.all (isPaired ·.1) then
      match member? segmentsName members, member? privateName members with
      | some segments, some flag => ofParts? segments flag
      | _, _ => none
    else none
  | .array [segments, flag] => ofParts? segments flag
  | _ => none

theorem segmentsOfJson?_toJson (segments : List Segment) :
    segmentsOfJson? (.array (segments.map Segment.toJson)) = some segments := by
  rw [segmentsOfJson?]
  induction segments with
  | nil => rfl
  | cons s segments ih => simp [Segment.ofJson?_toJson, ih]

theorem ofJson?_toJson (p : Path) : ofJson? p.toJson = some p := by
  have names : isPaired segmentsName = true ∧ isPaired privateName = true := by decide +kernel
  have apart : (privateName == segmentsName) = false := by decide +kernel
  have apart' : (segmentsName == privateName) = false := by decide +kernel
  simp [ofJson?, toJson, names, member?, apart, apart', ofParts?, segmentsOfJson?_toJson,
    flagOfJson?, isPrivate]

def toJsonText (p : Path) : String := p.toJson.text

def ofJsonText? (text : String) : Option Path := (Value.read? text).bind ofJson?

end Path

/-- The units of a name, given as a string or as the only member, a null, of an object. -/
def Json.nameOf? : Value → Option (List UInt16)
  | .string units => some units
  | .object [(units, .null)] => some units
  | _ => none

namespace KeyKind

def jsonName : KeyKind → String
  | .priv => "private"
  | .pub => "public"

def toJson (kind : KeyKind) : Value := .string (units kind.jsonName)

def ofJson? (v : Value) : Option KeyKind := do
  let name ← nameOf? v
  [priv, pub].find? fun kind => units kind.jsonName == name

def toJsonText (kind : KeyKind) : String := kind.toJson.text

def ofJsonText? (text : String) : Option KeyKind := (Value.read? text).bind ofJson?

end KeyKind

namespace Purpose

def jsonName : Purpose → String
  | .bip44 => "Bip44"
  | .bip49 => "Bip49"
  | .bip84 => "Bip84"
  | .bip86 => "Bip86"

def toJson (u : Purpose) : Value := .string (units u.jsonName)

def ofJson? (v : Value) : Option Purpose := do
  let name ← nameOf? v
  all.find? fun u => units u.jsonName == name

def toJsonText (u : Purpose) : String := u.toJson.text

def ofJsonText? (text : String) : Option Purpose := (Value.read? text).bind ofJson?

end Purpose

end KeyPath
