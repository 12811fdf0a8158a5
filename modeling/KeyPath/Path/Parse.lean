import KeyPath.Segment.Parse
import KeyPath.Text.Scan

/-!
# Reading paths

The text of a path is cut at every slash, and a scan over the pieces gives the trimmed ones, the
tokens, with their places.  A first token that is exactly a letter of a kind of keys gives the kind,
which is public without it; every other token that is not empty is a segment.  The first bad token
in the text decides the fault, which tells where the token begins, in bytes of the whole text.
-/

namespace KeyPath

open Text

namespace Path

/-- The trimmed pieces of a path's text, each with the byte at which it begins. -/
def placedTokens (text : String) : List (List Char × Nat) :=
  (Scan.run '/' (pieces '/' text.toList)).tokens

/-- The kind that the first token gives, and the tokens that are left for the segments. -/
def splitKind : List (List Char × Nat) → Option KeyKind × List (List Char × Nat)
  | [] => (none, [])
  | first :: rest =>
    match KeyKind.ofToken? first.1 with
    | some kind => (some kind, rest)
    | none => (none, first :: rest)

/-- Reads the tokens of `text` as segments up to the first bad one, and reports that one. -/
def readSegments (text : String) : List (List Char × Nat) → Logged (Except Fault (List Segment))
  | [] => return .ok []
  | (token, position) :: rest => do
    match Segment.ofToken token with
    | .ok s => return (← readSegments text rest).map (s :: ·)
    | .error reason =>
      Logged.emit (.rejectedPath text position reason)
      return .error (.malformed (String.ofList token) position reason)

/-- The kind of keys that a path's text asks for. -/
def kindOfText (text : String) : KeyKind := (splitKind (placedTokens text)).1.getD .pub

/-- The tokens of a path's text that have to be segments. -/
def placedSegments (text : String) : List (List Char × Nat) :=
  (splitKind (placedTokens text)).2.filter fun placed => !placed.1.isEmpty

/-- Reads a path, and reports it or its refusal. -/
def parse (text : String) : Logged (Except Fault Path) := do
  match ← readSegments text (placedSegments text) with
  | .ok segments =>
    let path : Path := ⟨kindOfText text, segments⟩
    Logged.emit (.parsed path)
    return .ok path
  | .error fault => return .error fault

/-- Makes a path of public keys from packed words, and reports it. -/
def unpack (packed : List Int32) : Logged Path := do
  let path := ofSegments (packed.map Segment.ofPacked)
  Logged.emit (.unpacked path)
  return path

theorem value_readSegments_cons (text : String) (placed : List Char × Nat)
    (rest : List (List Char × Nat)) :
    (readSegments text (placed :: rest)).value =
      match Segment.ofToken placed.1 with
      | .ok s => (readSegments text rest).value.map (s :: ·)
      | .error reason => .error (.malformed (String.ofList placed.1) placed.2 reason) := by
  cases eq : Segment.ofToken placed.1 <;> simp [readSegments, eq]

/-- The tokens are read one by one, and each by itself. -/
theorem value_readSegments (text : String) (ts : List (List Char × Nat)) :
    (readSegments text ts).value = ts.mapM fun placed =>
      (Segment.ofToken placed.1).mapError (.malformed (String.ofList placed.1) placed.2) := by
  induction ts with
  | nil => rfl
  | cons placed ts ih =>
    rw [value_readSegments_cons, List.mapM_cons, ← ih]
    cases Segment.ofToken placed.1 with
    | error reason => rfl
    | ok s => cases (readSegments text ts).value <;> rfl

/-- The tokens after a refused one are not looked at. -/
theorem records_readSegments_cons (text : String) (placed : List Char × Nat)
    (rest : List (List Char × Nat)) :
    (readSegments text (placed :: rest)).records =
      match Segment.ofToken placed.1 with
      | .ok _ => (readSegments text rest).records
      | .error reason => [.rejectedPath text placed.2 reason] := by
  cases eq : Segment.ofToken placed.1 <;> simp [readSegments, eq]

theorem value_parse (text : String) :
    (parse text).value =
      (readSegments text (placedSegments text)).value.map (Path.mk (kindOfText text)) := by
  cases eq : (readSegments text (placedSegments text)).value <;> simp [parse, eq, Except.map]

/-- A path is reported after whatever the reading of its segments reported. -/
theorem records_parse (text : String) :
    (parse text).records =
      (readSegments text (placedSegments text)).records ++
        match (parse text).value with
        | .ok path => [.parsed path]
        | .error _ => [] := by
  cases eq : (readSegments text (placedSegments text)).value <;> simp [parse, eq]

theorem value_unpack (packed : List Int32) :
    (unpack packed).value = ofSegments (packed.map Segment.ofPacked) := rfl

end Path

end KeyPath
