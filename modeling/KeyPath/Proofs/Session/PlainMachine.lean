import KeyPath.Session.Run
import Mathlib.Data.List.Infix

/-!
# The plain machine

What a session does, told by lists alone: a kept path is a flag and a list of words, and every step
that makes a path from another one is one operation on such a pair.  No text, JSON, packed word or
child step is written or read on the way; only a path that begins with a text is still parsed.
-/

namespace KeyPath

namespace Session

/-- Whether keys are private, and the words of the segments. -/
structure Plain where
  isPrivate : Bool
  words : List UInt32
deriving DecidableEq, Repr

end Session

/-- The number of the standard. -/
def Purpose.number : Purpose → UInt32
  | .bip44 => 44
  | .bip49 => 49
  | .bip84 => 84
  | .bip86 => 86

def Path.plain (p : Path) : Session.Plain := ⟨p.isPrivate, p.segments.map Segment.word⟩

namespace Session

/-- Why a step failed, if it did, and what it made. -/
structure PlainOutcome where
  failure : Option Failure
  made : List Plain
deriving DecidableEq, Repr

/-- The outcome of a step that has to make one pair. -/
def PlainOutcome.ofResult : Except Failure Plain → PlainOutcome
  | .ok p => ⟨none, [p]⟩
  | .error failure => ⟨some failure, []⟩

namespace Plain

def build : Source → Except Failure Plain
  | .text s => ((Path.parse s).value.map Path.plain).mapError .fault
  | .segments kind list => .ok ⟨kind.isPrivate, list.map Segment.word⟩
  | .collected list => .ok ⟨false, list.map Segment.word⟩
  | .root => .ok ⟨false, []⟩
  | .packed words => .ok ⟨false, words.map Int32.toUInt32⟩
  | .purpose u => .ok ⟨true, [u.number + 0x80000000]⟩
  | .purposeText s =>
    ((Purpose.parse s).value.map fun u => ⟨true, [u.number + 0x80000000]⟩).mapError
      .unknownPurpose
  | .steps kind list => .ok ⟨kind.isPrivate, list.map ChildStep.word⟩

/-- Makes a pair from `p`.  The flag is `p`'s own, except that packed words are always public and
steps have the kind that they are given. -/
def derive (kept : List Plain) (p : Plain) : Derivation → Except Failure Plain
  | .extend list => .ok ⟨p.isPrivate, p.words ++ list.map Segment.word⟩
  | .append other =>
    match kept[other]? with
    | some q => .ok ⟨p.isPrivate, p.words ++ q.words⟩
    | none => .error .noPath
  | .child s => .ok ⟨p.isPrivate, p.words ++ [s.word]⟩
  | .parent => .ok ⟨p.isPrivate, p.words.dropLast⟩
  | .reload => .ok ⟨false, p.words⟩
  | .reparse => .ok p
  | .json => .ok p
  | .steps kind => .ok ⟨kind.isPrivate, p.words⟩

/-- The non-empty prefixes, from the shortest, of all words or of all but the last. -/
def ancestors (p : Plain) (includeSelf : Bool) : List Plain :=
  (if includeSelf then p.words else p.words.dropLast).inits.tail.map fun words =>
    ⟨p.isPrivate, words⟩

/-- Why there is no answer about `p`, if there is none. -/
def refusal? (kept : List Plain) (p : Plain) : Query → Option Failure
  | .segment index =>
    if index < p.words.length then none
    else some (.fault (.outOfBounds index p.words.length))
  | .at index => if index < p.words.length then none else some .brokenPromise
  | .startsWith other => if other < kept.length then none else some .noPath
  | .comparison other => if other < kept.length then none else some .noPath
  | _ => none

def receiver? (kept : List Plain) : Option Nat → Option Plain
  | some number => kept[number]?
  | none => kept.getLast?

def perform (kept : List Plain) : Step → PlainOutcome
  | .build source => .ofResult (build source)
  | .derive on derivation =>
    match receiver? kept on with
    | some p => .ofResult (p.derive kept derivation)
    | none => ⟨some .noPath, []⟩
  | .ancestors on includeSelf =>
    match receiver? kept on with
    | some p => ⟨none, p.ancestors includeSelf⟩
    | none => ⟨some .noPath, []⟩
  | .ask on query =>
    match receiver? kept on with
    | some p => ⟨p.refusal? kept query, []⟩
    | none => ⟨some .noPath, []⟩

/-- The failures of the steps, and all pairs that are kept in the end. -/
def run (kept : List Plain) : List Step → List (Option Failure) × List Plain
  | [] => ([], kept)
  | step :: rest =>
    let outcome := perform kept step
    let later := run (kept ++ outcome.made) rest
    (outcome.failure :: later.1, later.2)

end Plain

def Reply.failure? : Reply → Option Failure
  | .failed failure => some failure
  | _ => none

/-- The receiver is one of the first `count` paths. -/
def Receives (count : Nat) : Option Nat → Prop
  | some number => number < count
  | none => 0 < count

def Derivation.Refers (count : Nat) : Derivation → Prop
  | .append other => other < count
  | _ => True

/-- The step makes paths from some of the first `count` paths. -/
def Step.MakesFrom (count : Nat) : Step → Prop
  | .derive on derivation => Receives count on ∧ derivation.Refers count
  | .ancestors on _ => Receives count on
  | _ => False

end Session

end KeyPath
