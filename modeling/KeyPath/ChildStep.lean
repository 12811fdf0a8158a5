import KeyPath.Path.Basic

/-!
# Child steps

The other common form of a segment: a plain or a hardened step, each with a 32-bit index that
nobody checked.  A step stands for a word.  An index that uses the top bit loses what it had there:
a plain step with the bit set is read as a hardened one, and a hardened step has it set anyway.
The steps of a segment always have an index below the boundary, so a segment is never changed by
going through steps.
-/

namespace KeyPath

inductive ChildStep where
  | normal (index : UInt32)
  | hardened (index : UInt32)
deriving DecidableEq, Repr

namespace ChildStep

def index : ChildStep → UInt32
  | .normal index => index
  | .hardened index => index

/-- The word a step stands for. -/
def word : ChildStep → UInt32
  | .normal index => index
  | .hardened index => index ||| Segment.boundary

theorem toNat_word_hardened (index : UInt32) :
    (hardened index).word.toNat = index.toNat % 0x80000000 + 0x80000000 :=
  Segment.toNat_or_boundary index

end ChildStep

namespace Segment

/-- The step with the segment's index and mark. -/
def toStep (s : Segment) : ChildStep := if s.hardened then .hardened s.index else .normal s.index

def ofStep (step : ChildStep) : Segment := ⟨step.word⟩

theorem index_toStep (s : Segment) : s.toStep.index = s.index := by
  unfold toStep
  split <;> rfl

/-- Going through steps changes no segment. -/
@[simp] theorem ofStep_toStep (s : Segment) : ofStep s.toStep = s := by
  have bound := s.word.toNat_lt
  apply ext_word
  unfold toStep
  split
  · next hard =>
    have := (hardened_iff s).mp hard
    rw [ofStep, ChildStep.toNat_word_hardened, toNat_index]
    omega
  · next plain =>
    have : ¬ 0x80000000 ≤ s.word.toNat := fun h => plain ((hardened_iff s).mpr h)
    rw [ofStep, ChildStep.word, toNat_index]
    omega

end Segment

namespace Path

def toSteps (p : Path) : List ChildStep := p.segments.map Segment.toStep

/-- The steps of a path that is given up for them; they are the same as those of a kept one. -/
def intoSteps (p : Path) : List ChildStep := p.toSteps

def ofSteps (kind : KeyKind) (steps : List ChildStep) : Path := ⟨kind, steps.map Segment.ofStep⟩

/-- Through steps a path keeps its segments and takes the kind it is given. -/
theorem ofSteps_toSteps (kind : KeyKind) (p : Path) :
    ofSteps kind p.toSteps = ⟨kind, p.segments⟩ := by
  simp [ofSteps, toSteps, Function.comp_def]

end Path

end KeyPath
