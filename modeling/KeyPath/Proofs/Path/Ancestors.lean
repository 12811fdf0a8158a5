import Mathlib.Data.List.Iterate
import KeyPath.Proofs.Path.Order

/-!
# Ancestors are the chain of parents

From a path one comes to the path of the master key by going from each path to its parent, one step
for each segment.  The ancestors of a path are cut out of its segments without a parent being taken,
and yet they are the paths of that chain in reverse, down to the last one that has a segment.
-/

namespace KeyPath.Path

variable {p q : Path}

theorem take_length (p : Path) : p.take p.length = p := by
  rw [take, length, List.take_length]

theorem parent_take {n : Nat} (inside : n ≤ p.length) : (p.take n).parent = p.take (n - 1) := by
  rw [length] at inside
  rw [parent, take, take, List.dropLast_eq_take, List.length_take, List.take_take]
  congr 2
  omega

/-- Each step up takes one segment away, as long as there is one. -/
theorem iterate_parent (p : Path) (k : Nat) : parent^[k] p = p.take (p.length - k) := by
  induction k with
  | zero => exact p.take_length.symm
  | succ k ih =>
    rw [Function.iterate_succ_apply', ih, parent_take (Nat.sub_le p.length k), Nat.sub_sub]

theorem kind_iterate_parent (p : Path) (k : Nat) : (parent^[k] p).kind = p.kind := by
  rw [iterate_parent]
  rfl

theorem isEmpty_iterate_parent {k : Nat} :
    (parent^[k] p).isEmpty = true ↔ p.length ≤ k := by
  rw [iterate_parent, isEmpty, List.isEmpty_iff_length_eq_zero, take, List.length_take, ← length]
  omega

theorem iterate_parent_add_length (p : Path) (k : Nat) :
    parent^[p.length + k] p = ⟨p.kind, []⟩ := by
  rw [iterate_parent, Nat.sub_add_eq, Nat.sub_self, Nat.zero_sub]
  rfl

theorem ancestors_true (p : Path) : p.ancestors true = (List.range' 1 p.length).map p.take := rfl

theorem ancestors_true_eq_reverse (p : Path) :
    p.ancestors true = (List.iterate parent p p.length).reverse := by
  rw [← List.reverse_inj, List.reverse_reverse, ancestors_true, ← List.map_reverse,
    List.reverse_range', List.map_map, ← List.range_map_iterate]
  apply List.map_congr_left
  intro k _
  rw [iterate_parent, Function.comp_apply]
  congr 1
  omega

theorem ancestors_false (p : Path) :
    p.ancestors false = (List.range' 1 (p.length - 1)).map p.take := rfl

theorem ancestors_false_eq_dropLast (p : Path) :
    p.ancestors false = (p.ancestors true).dropLast := by
  rw [ancestors_false, ancestors_true, ← List.map_dropLast, List.dropLast_eq_take,
    List.length_range', List.take_range'_of_length_ge (Nat.sub_le _ _)]

theorem mem_ancestors_true_iff :
    q ∈ p.ancestors true ↔ q.segments ≠ [] ∧ q.kind = p.kind ∧ q.segments <+: p.segments := by
  rw [ancestors_true, List.mem_map]
  constructor
  · rintro ⟨n, member, rfl⟩
    obtain ⟨positive, inside⟩ := List.mem_range'_1.mp member
    rw [length] at inside
    refine ⟨List.length_pos_iff.mp ?_, rfl, List.take_prefix n p.segments⟩
    rw [take, List.length_take]
    omega
  · rintro ⟨nonempty, kind, front⟩
    refine ⟨q.length, ?_, ?_⟩
    · have positive := List.length_pos_iff.mpr nonempty
      have inside := front.length_le
      rw [List.mem_range'_1, length, length]
      omega
    · rw [take, length, ← kind, ← List.prefix_iff_eq_take.mp front]

/-- A shorter beginning of a path comes before a longer one. -/
theorem order_take_take {m n : Nat} (shorter : m < n) (inside : n ≤ p.length) :
    order (p.take m) (p.take n) = .lt := by
  rw [length] at inside
  have front : (p.take m).segments = (p.segments.take n).take m := by
    rw [List.take_take, Nat.min_eq_left (Nat.le_of_lt shorter)]
    rfl
  have more : (p.segments.take n).drop m ≠ [] := by
    simp only [ne_eq, List.drop_eq_nil_iff, List.length_take]
    omega
  obtain ⟨s, rest, eq⟩ := List.exists_cons_of_ne_nil more
  have whole : (p.take n).segments = (p.take m).segments ++ s :: rest := by
    rw [front, ← eq, List.take_append_drop]
    rfl
  rw [order_eq_lt_iff, whole]
  exact .goesOn _ s rest

theorem pairwise_ancestors (p : Path) :
    (p.ancestors true).Pairwise fun a b => order a b = .lt := by
  rw [ancestors_true, List.pairwise_map]
  apply (List.pairwise_lt_range' (s := 1) (n := p.length)).imp_of_mem
  intro m n _ member shorter
  have inside := (List.mem_range'_1.mp member).2
  exact order_take_take shorter (by omega)

theorem nodup_ancestors (p : Path) : (p.ancestors true).Nodup := by
  apply p.pairwise_ancestors.imp
  rintro a b less rfl
  rw [order_self] at less
  cases less

theorem ancestors_child (p : Path) (s : Segment) :
    (p.child s).ancestors false = p.ancestors true := by
  have size : (p.child s).length - 1 = p.length := by simp [length]
  rw [ancestors_false, ancestors_true, size]
  apply List.map_congr_left
  intro n member
  have inside := (List.mem_range'_1.mp member).2
  have front : n ≤ p.segments.length := by
    rw [length] at inside
    omega
  rw [take, take, segments_child, kind_child, List.take_append_of_le_length front]

/-- Going up from parent to parent, an empty path is reached after one step for each segment and not
left again.  The ancestors are the paths before it, the shortest first, which are the non-empty
beginnings of the path, each once and in order, and the ancestors of every child but for itself. -/
theorem ancestors_reverse_parents (p : Path) :
    ((∀ k, (parent^[k] p).isEmpty = true ↔ p.length ≤ k) ∧
      (∀ k, parent^[p.length + k] p = ⟨p.kind, []⟩) ∧
      ∀ k, (parent^[k] p).kind = p.kind) ∧
    (p.ancestors true = (List.iterate parent p p.length).reverse ∧
      p.ancestors false = (p.ancestors true).dropLast) ∧
    (∀ q, q ∈ p.ancestors true ↔
      q.segments ≠ [] ∧ q.kind = p.kind ∧ q.segments <+: p.segments) ∧
    (p.ancestors true).Nodup ∧
    ((p.ancestors true).Pairwise fun a b => order a b = .lt) ∧
    ∀ s, (p.child s).ancestors false = p.ancestors true :=
  ⟨⟨fun _ => isEmpty_iterate_parent, p.iterate_parent_add_length, p.kind_iterate_parent⟩,
    ⟨p.ancestors_true_eq_reverse, p.ancestors_false_eq_dropLast⟩, fun _ => mem_ancestors_true_iff,
    p.nodup_ancestors, p.pairwise_ancestors, p.ancestors_child⟩

example : Path.ancestors ⟨.priv, [⟨44⟩, ⟨0⟩]⟩ true = [⟨.priv, [⟨44⟩]⟩, ⟨.priv, [⟨44⟩, ⟨0⟩]⟩] := by
  decide

end KeyPath.Path
