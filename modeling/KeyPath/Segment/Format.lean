import KeyPath.Segment.Basic
import KeyPath.Text.FormatSpec

/-!
# Written segments

A segment is written as its index, laid out as an unsigned number, and after it the mark of a
hardened segment, which the layout does not pad.  The mark is `H`, and an apostrophe in the other
spelling.
-/

namespace KeyPath.Segment

/-- The mark of hardened segments. -/
def mark (alternate : Bool) : Char := if alternate then '\x27' else 'H'

def markText (s : Segment) (alternate : Bool) : List Char :=
  if s.hardened then [mark alternate] else []

def format (layout : Layout) (s : Segment) : List Char :=
  layout.number s.index.toNat ++ s.markText layout.alternate

def text (s : Segment) : String := String.ofList (s.format .plain)

def otherText (s : Segment) : String := String.ofList (s.format .other)

/-- The segment with the name of its type; spread over lines when `spread`.  The mark is always
`H`. -/
def structureText (spread : Bool) (s : Segment) : String :=
  if spread then "ChildNumber(\n    " ++ s.text ++ ",\n)" else "ChildNumber(" ++ s.text ++ ")"

/-- The segment as a format specification asks for it. -/
def render (spec : FormatSpec) (s : Segment) : String :=
  if spec.structural then s.structureText spec.layout.alternate
  else String.ofList (s.format spec.layout)

end KeyPath.Segment
