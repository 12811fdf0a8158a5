import KeyPath.KeyKind
import KeyPath.Segment.Basic

/-!
# Derivation paths

A path is a list of segments, from the master key down, and the kind of keys it is followed with.
Every path made from another one keeps the other's kind, whatever kind the added part had.
-/

namespace KeyPath

structure Path where
  kind : KeyKind
  segments : List Segment
deriving DecidableEq, Repr

namespace Path

/-- The path to the master key, with public keys. -/
def root : Path := ⟨.pub, []⟩

instance : Inhabited Path := ⟨root⟩

/-- Segments alone make a path of public keys. -/
def ofSegments (segments : List Segment) : Path := ⟨.pub, segments⟩

def isPrivate (p : Path) : Bool := p.kind.isPrivate

def length (p : Path) : Nat := p.segments.length

def isEmpty (p : Path) : Bool := p.segments.isEmpty

def get? (p : Path) (index : Nat) : Option Segment := p.segments[index]?

/-- The segment at a position, which has to be inside the path. -/
def segment (p : Path) (index : Nat) : Except Fault Segment :=
  match p.get? index with
  | some s => .ok s
  | none => .error (.outOfBounds index p.length)

def first? (p : Path) : Option Segment := p.segments.head?

def last? (p : Path) : Option Segment := p.segments.getLast?

def contains (p : Path) (s : Segment) : Bool := p.segments.contains s

def hardenedCount (p : Path) : Nat := p.segments.countP Segment.hardened

/-- Whether the other path's segments are the first ones of this path. -/
def startsWith (p other : Path) : Bool := other.segments.isPrefixOf p.segments

def extend (p : Path) (children : List Segment) : Path := ⟨p.kind, p.segments ++ children⟩

/-- The segments of the other path after those of this one. -/
def append (p other : Path) : Path := p.extend other.segments

def child (p : Path) (s : Segment) : Path := p.extend [s]

/-- The first `len` segments. -/
def take (p : Path) (len : Nat) : Path := ⟨p.kind, p.segments.take len⟩

/-- The path without its last segment; the empty path is its own parent. -/
def parent (p : Path) : Path := ⟨p.kind, p.segments.dropLast⟩

/-- The non-empty paths above this one, from the shortest, with the path itself if asked for. -/
def ancestors (p : Path) (includeSelf : Bool) : List Path :=
  (List.range' 1 (if includeSelf then p.length else p.length - 1)).map p.take

/-- The packed words of the segments. -/
def pack (p : Path) : List Int32 := p.segments.map Segment.pack

@[simp] theorem kind_extend (p : Path) (children : List Segment) :
    (p.extend children).kind = p.kind := rfl

@[simp] theorem segments_extend (p : Path) (children : List Segment) :
    (p.extend children).segments = p.segments ++ children := rfl

@[simp] theorem kind_append (p other : Path) : (p.append other).kind = p.kind := rfl

@[simp] theorem segments_append (p other : Path) :
    (p.append other).segments = p.segments ++ other.segments := rfl

@[simp] theorem kind_child (p : Path) (s : Segment) : (p.child s).kind = p.kind := rfl

@[simp] theorem segments_child (p : Path) (s : Segment) :
    (p.child s).segments = p.segments ++ [s] := rfl

@[simp] theorem kind_parent (p : Path) : p.parent.kind = p.kind := rfl

@[simp] theorem segments_parent (p : Path) : p.parent.segments = p.segments.dropLast := rfl

theorem segment_eq_ok_iff {p : Path} {index : Nat} {s : Segment} :
    p.segment index = .ok s ↔ p.segments[index]? = some s := by
  unfold segment get?
  cases p.segments[index]? <;> simp

end Path

end KeyPath
