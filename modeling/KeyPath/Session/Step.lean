import KeyPath.ChildStep
import KeyPath.Path.Order
import KeyPath.Purpose.Text

/-!
# Steps of a session

A session keeps the paths that its steps made, numbered from zero.  A step makes a path from
scratch, or has a receiver, one of the kept paths: then it makes paths from the receiver or asks
something about it.  Without a number the receiver is the path that was kept last.
-/

namespace KeyPath.Session

/-- What a path is made of from scratch. -/
inductive Source where
  | text (text : String)
  | segments (kind : KeyKind) (segments : List Segment)
  | collected (segments : List Segment)
  | root
  | packed (words : List Int32)
  | purpose (purpose : Purpose)
  | purposeText (text : String)
  | steps (kind : KeyKind) (steps : List ChildStep)
deriving DecidableEq, Repr

/-- How one path is made from the receiver. -/
inductive Derivation where
  | extend (segments : List Segment)
  /-- Adds the segments of the kept path with this number. -/
  | append (other : Nat)
  | child (segment : Segment)
  | parent
  /-- Packs the receiver and makes a path of the packed words. -/
  | reload
  /-- Writes the receiver and reads it. -/
  | reparse
  /-- Writes the receiver as JSON and reads it. -/
  | json
  /-- Turns the receiver into child steps and makes a path of this kind of them. -/
  | steps (kind : KeyKind)
deriving DecidableEq, Repr

/-- What is asked about the receiver. -/
inductive Query where
  | segment (index : Nat)
  | get (index : Nat)
  /-- The segment at a position that the asker promises to be inside. -/
  | at (index : Nat)
  | ends
  | hardenedCount
  | contains (segment : Segment)
  | startsWith (other : Nat)
  | forward
  | backward
  | packed
  | purpose
  | describe
  | comparison (other : Nat)
deriving DecidableEq, Repr

inductive Step where
  | build (source : Source)
  | derive (on : Option Nat) (derivation : Derivation)
  | ancestors (on : Option Nat) (includeSelf : Bool)
  | ask (on : Option Nat) (query : Query)
deriving DecidableEq, Repr

/-- Why a step failed. -/
inductive Failure where
  | fault (fault : Fault)
  | unknownPurpose (unknown : UnknownPurpose)
  | json
  /-- The promise of a position inside the path was broken. -/
  | brokenPromise
  /-- No path with the number was kept. -/
  | noPath
deriving DecidableEq, Repr

inductive Reply where
  | path (path : Path)
  | paths (paths : List Path)
  | segment (segment : Segment)
  | word (segment : Segment)
  | found (segment : Option Segment)
  | ends (first last : Option Segment)
  | count (n : Nat)
  | flag (b : Bool)
  | segments (segments : List Segment)
  | packed (words : List Int32)
  | purpose (purpose : Option Purpose)
  | description (path : Path)
  | comparison (comparison : Comparison)
  | failed (failure : Failure)
deriving DecidableEq, Repr

end KeyPath.Session
