import KeyPath.Purpose.Basic
import KeyPath.Segment.Parse
import KeyPath.Text.LowerCase

/-!
# Names of purposes

A purpose is written by its short name, and in the other spelling as its parent path.  It is read,
in any letter case and with blanks around it, from its short name or from its segment.  A text that
is neither is kept as it was given.
-/

namespace KeyPath

/-- A text that names no purpose. -/
structure UnknownPurpose where
  text : String
deriving DecidableEq, Repr

namespace UnknownPurpose

def message (u : UnknownPurpose) : String :=
  "string `" ++ u.text ++ "` is neither a known BIP-43 purpose name nor a purpose segment"

def comparison (a b : UnknownPurpose) : Comparison := .byKey a.text b.text

end UnknownPurpose

namespace Purpose

open Text

def name : Purpose → String
  | .bip44 => "bip44"
  | .bip49 => "bip49"
  | .bip84 => "bip84"
  | .bip86 => "bip86"

/-- The name of the purpose as it is shown with a value's structure. -/
def structureText : Purpose → String
  | .bip44 => "Bip44"
  | .bip49 => "Bip49"
  | .bip84 => "Bip84"
  | .bip86 => "Bip86"

/-- The purpose's other spelling. -/
def otherText : Purpose → String
  | .bip44 => "m/44H"
  | .bip49 => "m/49H"
  | .bip84 => "m/84H"
  | .bip86 => "m/86H"

/-- The purpose as a format specification asks for it; it is never padded. -/
def render (spec : FormatSpec) (u : Purpose) : String :=
  if spec.structural then u.structureText
  else if spec.layout.alternate then u.otherText
  else u.name

/-- The purpose of a short name in lower case. -/
def ofName? (name : String) : Option Purpose := all.find? fun u => u.name == name

/-- Reads a purpose.  What is not a name is read as a segment, in lower case, and a refusal of that
is reported. -/
def parse (text : String) : Logged (Except UnknownPurpose Purpose) := do
  let lowered := String.ofList (lowerCase (trim text.toList))
  match ofName? lowered with
  | some u => return .ok u
  | none =>
    match (← Segment.parse lowered).toOption.bind ofSegment? with
    | some u => return .ok u
    | none => return .error ⟨text⟩

/-- The other spelling of a purpose is the text of its parent path. -/
theorem otherText_eq (u : Purpose) : u.otherText = u.parentPath.text := by
  cases u <;> decide +kernel

end Purpose

end KeyPath
