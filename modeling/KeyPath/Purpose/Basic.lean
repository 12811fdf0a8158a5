import KeyPath.Path.Basic

/-!
# Purposes of derivation paths

The first segment of a path may name the standard it follows, by a hardened segment whose index is
the standard's number.  A purpose is found from the first segment alone.  The segments and the
parent paths are two tables, and a parent path is the private path of the purpose's segment.
-/

namespace KeyPath

namespace Segment

def bip44 : Segment := join 44 true

def bip49 : Segment := join 49 true

def bip84 : Segment := join 84 true

def bip86 : Segment := join 86 true

end Segment

namespace Path

def bip44Parent : Path := ⟨.priv, [.bip44]⟩

def bip49Parent : Path := ⟨.priv, [.bip49]⟩

def bip84Parent : Path := ⟨.priv, [.bip84]⟩

def bip86Parent : Path := ⟨.priv, [.bip86]⟩

end Path

/-- The standards that are known. -/
inductive Purpose where
  | bip44
  | bip49
  | bip84
  | bip86
deriving DecidableEq, Repr

namespace Purpose

def all : List Purpose := [.bip44, .bip49, .bip84, .bip86]

/-- The segment that announces the purpose. -/
def segment : Purpose → Segment
  | .bip44 => .bip44
  | .bip49 => .bip49
  | .bip84 => .bip84
  | .bip86 => .bip86

/-- The path under which the keys of the purpose are. -/
def parentPath : Purpose → Path
  | .bip44 => .bip44Parent
  | .bip49 => .bip49Parent
  | .bip84 => .bip84Parent
  | .bip86 => .bip86Parent

/-- The purpose that a segment announces. -/
def ofSegment? (s : Segment) : Option Purpose := all.find? fun u => u.segment == s

def detect (p : Path) : Option Purpose := p.first?.bind ofSegment?

/-- The place of a purpose among the purposes. -/
def rank : Purpose → Nat
  | .bip44 => 0
  | .bip49 => 1
  | .bip84 => 2
  | .bip86 => 3

def comparison (a b : Purpose) : Comparison := .byKey a.rank b.rank

theorem mem_all (u : Purpose) : u ∈ all := by cases u <;> decide

/-- The parent path is the private path of the purpose's segment. -/
theorem parentPath_eq (u : Purpose) : u.parentPath = ⟨.priv, [u.segment]⟩ := by
  cases u <;> rfl

theorem ofSegment?_eq_some_iff {s : Segment} {u : Purpose} :
    ofSegment? s = some u ↔ s = u.segment := by
  constructor
  · intro found
    have := List.find?_some found
    exact (beq_iff_eq.mp this).symm
  · rintro rfl
    cases u <;> decide

end Purpose

end KeyPath
