import KeyPath.ChildStep

/-!
# Child steps are lossless below the boundary

A path always comes back from its child steps, with the kind it is given.  A list of steps comes
back from its path when no index uses the top bit, and only then: any other step, plain or
hardened, comes back as the hardened step of the lower bits of its index.  The words that the steps
stand for never change, so going through a path a second time changes nothing more.
-/

namespace KeyPath

namespace Segment

variable {index : UInt32} {step : ChildStep}

theorem mod_boundary (small : index < boundary) : index % boundary = index := by
  apply UInt32.toNat_inj.mp
  rw [UInt32.toNat_mod]
  exact Nat.mod_eq_of_lt (UInt32.lt_iff_toNat_lt.mp small)

theorem index_ofStep (step : ChildStep) : (ofStep step).index = step.index % boundary := by
  apply UInt32.toNat_inj.mp
  cases step with
  | normal index => rw [toNat_index, UInt32.toNat_mod]; rfl
  | hardened index =>
    have word := ChildStep.toNat_word_hardened index
    rw [toNat_index, ofStep, word, ChildStep.index, UInt32.toNat_mod, toNat_boundary]
    omega

theorem hardened_ofStep_normal : (ofStep (.normal index)).hardened = true ↔ ¬ index < boundary := by
  rw [hardened_iff, UInt32.lt_iff_toNat_lt, toNat_boundary, Nat.not_lt]
  rfl

theorem hardened_ofStep_hardened : (ofStep (.hardened index)).hardened = true := by
  rw [hardened_iff, ofStep, ChildStep.toNat_word_hardened]
  omega

/-- Going through a segment keeps a step whose index is below the boundary; of any other it keeps
the lower bits, as a hardened step. -/
theorem toStep_ofStep (step : ChildStep) :
    (ofStep step).toStep =
      if step.index < boundary then step else .hardened (step.index % boundary) := by
  rw [toStep, index_ofStep]
  by_cases small : step.index < boundary
  · rw [if_pos small, mod_boundary small]
    cases step with
    | normal index => exact if_neg fun hard => hardened_ofStep_normal.mp hard small
    | hardened index => exact if_pos hardened_ofStep_hardened
  · rw [if_neg small]
    cases step with
    | normal index => exact if_pos (hardened_ofStep_normal.mpr small)
    | hardened index => exact if_pos hardened_ofStep_hardened

theorem index_toStep_lt (s : Segment) : s.toStep.index < boundary := by
  rw [index_toStep, UInt32.lt_iff_toNat_lt]
  exact s.index_lt

theorem toStep_ofStep_eq_self_iff : (ofStep step).toStep = step ↔ step.index < boundary := by
  constructor
  · intro kept
    rw [← kept]
    exact index_toStep_lt _
  · intro small
    rw [toStep_ofStep, if_pos small]

theorem word_toStep (s : Segment) : s.toStep.word = s.word := congrArg word (ofStep_toStep s)

end Segment

namespace Path

theorem toSteps_ofSteps (kind : KeyKind) (steps : List ChildStep) :
    (ofSteps kind steps).toSteps = steps.map fun step => (Segment.ofStep step).toStep :=
  List.map_map

theorem index_lt_of_mem_toSteps (p : Path) :
    ∀ step ∈ p.toSteps, step.index < Segment.boundary := by
  intro step member
  obtain ⟨s, -, rfl⟩ := List.mem_map.mp member
  exact s.index_toStep_lt

theorem map_word_toSteps_ofSteps (kind : KeyKind) (steps : List ChildStep) :
    (ofSteps kind steps).toSteps.map ChildStep.word = steps.map ChildStep.word := by
  rw [toSteps_ofSteps, List.map_map]
  exact List.map_congr_left fun step _ => Segment.word_toStep (Segment.ofStep step)

theorem toSteps_ofSteps_eq_self_iff {kind : KeyKind} {steps : List ChildStep} :
    (ofSteps kind steps).toSteps = steps ↔ ∀ step ∈ steps, step.index < Segment.boundary := by
  have pointwise := List.map_inj_left (f := fun step => (Segment.ofStep step).toStep) (g := id)
    (l := steps)
  rw [List.map_id] at pointwise
  rw [toSteps_ofSteps, pointwise]
  simp only [id, Segment.toStep_ofStep_eq_self_iff]

/-- A path comes back from its steps under the kind it is given, and no index of these uses the top
bit.  Steps that go through a path keep their number and their words.  They stay as they are exactly
when no index uses the top bit; the others become hardened ones of their lower bits, and a second
time changes nothing more. -/
theorem steps_lossless_in_range :
    (∀ (p : Path) (kind : KeyKind), ofSteps kind p.toSteps = ⟨kind, p.segments⟩ ∧
      p.intoSteps = p.toSteps ∧ ∀ step ∈ p.toSteps, step.index < Segment.boundary) ∧
    ∀ (kind kind' : KeyKind) (steps : List ChildStep),
      ((ofSteps kind steps).toSteps.length = steps.length ∧
        (ofSteps kind steps).toSteps.map ChildStep.word = steps.map ChildStep.word) ∧
      ((ofSteps kind steps).toSteps = steps ↔ ∀ step ∈ steps, step.index < Segment.boundary) ∧
      ((ofSteps kind steps).toSteps = steps.map fun step =>
        if step.index < Segment.boundary then step
        else .hardened (step.index % Segment.boundary)) ∧
      (ofSteps kind' (ofSteps kind steps).toSteps).toSteps = (ofSteps kind steps).toSteps := by
  refine ⟨?_, ?_⟩
  · intro p kind
    exact ⟨ofSteps_toSteps kind p, rfl, p.index_lt_of_mem_toSteps⟩
  · intro kind kind' steps
    refine ⟨⟨?_, map_word_toSteps_ofSteps kind steps⟩, toSteps_ofSteps_eq_self_iff, ?_, ?_⟩
    · rw [toSteps_ofSteps, List.length_map]
    · rw [toSteps_ofSteps]
      exact List.map_congr_left fun step _ => Segment.toStep_ofStep step
    · exact toSteps_ofSteps_eq_self_iff.mpr (ofSteps kind steps).index_lt_of_mem_toSteps

/-- The largest index is kept in both kinds of steps; with the top bit both kinds come back as one
hardened step. -/
theorem steps_lossless_in_range_edges :
    (∀ step ∈ [ChildStep.normal 0x7fffffff, .hardened 0x7fffffff],
      step.index < Segment.boundary) ∧
    (ofSteps .pub [.normal 0x7fffffff, .hardened 0x7fffffff]).toSteps =
      [.normal 0x7fffffff, .hardened 0x7fffffff] ∧
    (ChildStep.hardened 5 ∈ (⟨.priv, [⟨0x80000005⟩]⟩ : Path).toSteps ∧
      (5 : UInt32) < Segment.boundary) ∧
    (ofSteps .priv [.normal 0x80000005, .hardened 0x80000005]).toSteps =
      [.hardened 5, .hardened 5] := by
  obtain ⟨ofPath, ofList⟩ := steps_lossless_in_range
  have small : ∀ step ∈ [ChildStep.normal 0x7fffffff, .hardened 0x7fffffff],
      step.index < Segment.boundary := by decide
  have member : ChildStep.hardened 5 ∈ (⟨.priv, [⟨0x80000005⟩]⟩ : Path).toSteps := by decide
  refine ⟨small, (ofList .pub .pub _).2.1.mpr small,
    ⟨member, (ofPath _ .priv).2.2 (.hardened 5) member⟩, ?_⟩
  rw [(ofList .priv .priv _).2.2.1]
  decide

end Path

end KeyPath
