import KeyPath.Proofs.Path.Ancestors
import KeyPath.Proofs.Path.StoredForms
import KeyPath.Purpose.Basic

/-!
# Detecting purposes

A path follows a purpose when it lies at or under the purpose's parent path, whatever the kinds of
keys.  So the purpose is a matter of the first segment, and no path follows two.  Going down from a
path that has a segment, going up as long as a segment is left, and storing a path and reading it
again all keep the first segment, and the purpose with it.
-/

namespace KeyPath.Purpose

variable {p q : Path} {u v : Purpose}

theorem detect_eq_some_iff_first? : detect p = some u ↔ p.first? = some u.segment := by
  rw [detect, Option.bind_eq_some_iff]
  simp only [ofSegment?_eq_some_iff]
  constructor
  · rintro ⟨c, first, rfl⟩
    exact first
  · intro first
    exact ⟨u.segment, first, rfl⟩

/-- To follow a purpose is to lie at or under its parent path. -/
theorem detect_eq_some_iff : detect p = some u ↔ u.parentPath.segments <+: p.segments := by
  rw [detect_eq_some_iff_first?, Path.first?, List.head?_eq_some_iff, parentPath_eq]
  exact exists_congr fun _ => eq_comm

theorem detect_parentPath_extend (u : Purpose) (children : List Segment) :
    detect (u.parentPath.extend children) = some u :=
  detect_eq_some_iff.mpr (List.prefix_append _ _)

/-- No path lies under the parent paths of two purposes. -/
theorem parentPath_prefix_iff (front : u.parentPath.segments <+: p.segments) :
    v.parentPath.segments <+: p.segments ↔ v = u := by
  rw [← detect_eq_some_iff] at front ⊢
  rw [front, Option.some.injEq, eq_comm]

/-- A path and the paths under it follow the same purpose, once there is a first segment. -/
theorem detect_of_beginning (nonempty : q.segments ≠ []) (front : q.segments <+: p.segments) :
    detect q = detect p := by
  obtain ⟨rest, whole⟩ := front
  rw [detect, detect, Path.first?, Path.first?, ← whole, List.head?_append_of_ne_nil _ nonempty]

theorem detect_extend (nonempty : p.segments ≠ []) (children : List Segment) :
    detect (p.extend children) = detect p :=
  (detect_of_beginning nonempty (List.prefix_append _ _)).symm

theorem detect_of_mem_ancestors (member : q ∈ p.ancestors true) : detect q = detect p := by
  obtain ⟨nonempty, -, front⟩ := Path.mem_ancestors_true_iff.mp member
  exact detect_of_beginning nonempty front

/-- The unpacked path may be of the other kind, but it has the same segments. -/
theorem detect_unpack_pack (p : Path) : detect (Path.unpack p.pack).value = detect p := by
  rw [Path.unpack_pack]
  rfl

/-- The purpose of a path is the one whose parent path it lies under, which the first segment alone
tells, and there is at most one.  Extending a path that is not empty, going to an ancestor, packing
and unpacking, and writing and reading keep the purpose; and a segment announces a purpose exactly
when it is the purpose's own. -/
theorem detection_survives_derivation :
    (∀ (p : Path) (u : Purpose), (detect p = some u ↔ u.parentPath.segments <+: p.segments) ∧
      (detect p = some u ↔ p.first? = some u.segment)) ∧
    (∀ (p : Path) (u : Purpose), u.parentPath.segments <+: p.segments →
      ∀ v : Purpose, v.parentPath.segments <+: p.segments ↔ v = u) ∧
    (∀ p : Path, p.isEmpty = false → ∀ children, detect (p.extend children) = detect p) ∧
    (∀ p : Path, ∀ q ∈ p.ancestors true, detect q = detect p) ∧
    (∀ p : Path, detect (Path.unpack p.pack).value = detect p ∧
      (Path.parse p.text).value.map detect = .ok (detect p) ∧
      (Path.parse p.otherText).value.map detect = .ok (detect p)) ∧
    (∀ (u : Purpose) (children : List Segment),
      detect (u.parentPath.extend children) = some u) ∧
    ∀ (c : Segment) (u : Purpose), ofSegment? c = some u ↔ c = u.segment := by
  refine ⟨fun _ _ => ⟨detect_eq_some_iff, detect_eq_some_iff_first?⟩,
    fun _ _ front _ => parentPath_prefix_iff front, ?_, fun _ _ => detect_of_mem_ancestors, ?_,
    detect_parentPath_extend, fun _ _ => ofSegment?_eq_some_iff⟩
  · intro p nonempty children
    exact detect_extend (List.isEmpty_eq_false_iff.mp nonempty) children
  · intro p
    refine ⟨detect_unpack_pack p, ?_, ?_⟩
    · rw [Path.value_parse_text]
      rfl
    · rw [Path.value_parse_otherText]
      rfl

/-- A path under the parent path of one purpose goes on with the segments of another, and one
whose first segment is not hardened stays without a purpose. -/
theorem detection_survives_derivation_accounts :
    (Purpose.bip84.parentPath.segments <+: [⟨0x80000054⟩, ⟨0x8000002C⟩] ∧
      ¬ Purpose.bip44.parentPath.segments <+: [⟨0x80000054⟩, ⟨0x8000002C⟩]) ∧
    (Path.isEmpty ⟨.pub, [⟨44⟩]⟩ = false ∧
      detect (Path.extend ⟨.pub, [⟨44⟩]⟩ [⟨0x8000002C⟩]) = detect ⟨.pub, [⟨44⟩]⟩) ∧
    (⟨.pub, [⟨0x80000054⟩]⟩ ∈ Path.ancestors ⟨.pub, [⟨0x80000054⟩, ⟨0x8000002C⟩]⟩ true ∧
      detect ⟨.pub, [⟨0x80000054⟩]⟩ = detect ⟨.pub, [⟨0x80000054⟩, ⟨0x8000002C⟩]⟩) := by
  obtain ⟨-, single, extended, ancestor, -⟩ := detection_survives_derivation
  have front : Purpose.bip84.parentPath.segments <+:
      Path.segments ⟨.pub, [⟨0x80000054⟩, ⟨0x8000002C⟩]⟩ := by decide
  refine ⟨⟨front, ?_⟩, ⟨rfl, extended _ rfl _⟩, by decide, ancestor _ _ (by decide)⟩
  exact mt (single _ _ front .bip44).mp (by decide)

end KeyPath.Purpose
