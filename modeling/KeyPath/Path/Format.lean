import KeyPath.Path.Basic
import KeyPath.Segment.Format

/-!
# Written paths

A path is written as the letter of its kind and then, for each segment, a slash and the segment.
The layout reaches the indexes of the segments only.
-/

namespace KeyPath.Path

/-- The segments, each after a slash. -/
def formatSegments (layout : Layout) (segments : List Segment) : List Char :=
  segments.flatMap fun s => '/' :: s.format layout

def format (layout : Layout) (p : Path) : List Char :=
  p.kind.symbol :: formatSegments layout p.segments

def text (p : Path) : String := String.ofList (p.format .plain)

def otherText (p : Path) : String := String.ofList (p.format .other)

def flagText (flag : Bool) : String := if flag then "true" else "false"

/-- One segment on lines of its own inside a list of segments. -/
def spreadSegment (s : Segment) : String :=
  "        ChildNumber(\n            " ++ s.text ++ ",\n        ),\n"

/-- The path with the names of its type and of its parts; spread over lines when `spread`. -/
def structureText (spread : Bool) (p : Path) : String :=
  if spread then
    let items :=
      if p.isEmpty then "[]" else "[\n" ++ String.join (p.segments.map spreadSegment) ++ "    ]"
    "HdPath \x7b\n    segments: " ++ items ++ ",\n    has_private_key: " ++ flagText p.isPrivate ++
      ",\n\x7d"
  else
    "HdPath \x7b segments: [" ++ ", ".intercalate (p.segments.map (Segment.structureText false)) ++
      "], has_private_key: " ++ flagText p.isPrivate ++ " \x7d"

/-- The path as a format specification asks for it. -/
def render (spec : FormatSpec) (p : Path) : String :=
  if spec.structural then p.structureText spec.layout.alternate
  else String.ofList (p.format spec.layout)

theorem toList_text (p : Path) : p.text.toList = p.format .plain := String.toList_ofList

end KeyPath.Path
