import KeyPath.Proofs.Path.Sorting

/-!
# Subtrees are runs of the order

The paths that start with the segments of a path are its subtree.  Between two paths of a subtree
the order has no path from outside of it, so in a sorted list a subtree is one unbroken run.  Inside
a subtree paths are compared by what follows the common segments; two paths of which neither starts
with the other are compared at the segment where they part, whatever follows them.
-/

namespace KeyPath.Path

variable {a b c d p q : Path} {as bs cs ds : List Segment}

theorem startsWith_iff : p.startsWith a = true ↔ a.segments <+: p.segments :=
  List.isPrefixOf_iff_prefix

/-- What follows two lists that have parted does not matter. -/
theorem Precedes.mono (precedes : Precedes as bs) (apart : ¬ as <+: bs) (front : as <+: cs)
    (front' : bs <+: ds) : Precedes cs ds := by
  obtain ⟨more, rfl⟩ := front
  obtain ⟨more', rfl⟩ := front'
  cases precedes with
  | goesOn front s rest => exact absurd (List.prefix_append _ (s :: rest)) apart
  | differs front before as bs =>
    rw [List.append_assoc, List.append_assoc]
    exact .differs front before (as ++ more) (bs ++ more')

/-- Subtrees of which neither holds the other are compared as their topmost paths are. -/
theorem order_of_apart (apart : ¬ a.segments <+: b.segments) (apart' : ¬ b.segments <+: a.segments)
    (below : a.segments <+: p.segments) (below' : b.segments <+: q.segments) :
    order p q = order a b := by
  cases result : order a b with
  | lt => exact order_eq_lt_iff.mpr ((order_eq_lt_iff.mp result).mono apart below below')
  | eq =>
    have equal := same_iff.mp (order_eq_iff.mp result)
    exact absurd (equal ▸ List.prefix_refl a.segments) apart
  | gt =>
    have reversed : order b a = .lt := Std.OrientedCmp.gt_iff_lt.mp result
    exact Std.OrientedCmp.gt_iff_lt.mpr
      (order_eq_lt_iff.mpr ((order_eq_lt_iff.mp reversed).mono apart' below' below))

/-- A path comes before all others of its subtree. -/
theorem isLE_of_below (below : a.segments <+: p.segments) : (order a p).isLE = true := by
  obtain ⟨rest, whole⟩ := below
  have further := orderSegments_append a.segments [] rest
  rw [List.append_nil, whole] at further
  rw [order, further]
  cases rest <;> rfl

/-- What the order has between two paths of a subtree is in the subtree: a path above it would come
before both, and any other path outside of it comes before both or after both. -/
theorem prefix_of_between (lower : a.segments <+: p.segments) (upper : a.segments <+: q.segments)
    (first : (order p c).isLE = true) (second : (order c q).isLE = true) :
    a.segments <+: c.segments := by
  by_contra outside
  by_cases above : c.segments <+: a.segments
  · have equal := segments_eq_of_isLE first (isLE_of_below (above.trans lower))
    exact outside (equal ▸ lower)
  · rw [order_of_apart outside above lower (List.prefix_refl _)] at first
    rw [order_of_apart above outside (List.prefix_refl _) upper] at second
    exact outside (segments_eq_of_isLE first second ▸ List.prefix_refl _)

theorem order_append_of_same (equal : same a b = true) (x y : Path) :
    order (a.append x) (b.append y) = order x y := by
  rw [order, segments_append, segments_append, same_iff.mp equal, orderSegments_append]
  rfl

theorem order_append_eq_iff {x : Path} : order a (a.append x) = .eq ↔ x.segments = [] := by
  rw [order_eq_iff, same_iff, segments_append, List.self_eq_append_right]

section Runs

variable {α : Type} {R : α → α → Prop} {chosen : α → Bool} {list : List α}

theorem filter_prefix_of_closed
    (closed : list.Pairwise fun x y => chosen y = true → chosen x = true) :
    list.filter chosen <+: list := by
  induction list with
  | nil => exact List.prefix_refl []
  | cons x list ih =>
    obtain ⟨first, later⟩ := List.pairwise_cons.mp closed
    by_cases head : chosen x = true
    · rw [List.filter_cons_of_pos head, List.prefix_cons_inj]
      exact ih later
    · have none : list.filter chosen = [] :=
        List.filter_eq_nil_iff.mpr fun y member taken => head (first y member taken)
      rw [List.filter_cons_of_neg head, none]
      exact List.nil_prefix

/-- What is chosen from a sorted list is one run of it when nothing between two chosen members is
left out. -/
theorem filter_infix_of_between (sorted : list.Pairwise R)
    (between : ∀ x y z, R x y → R y z → chosen x = true → chosen z = true → chosen y = true) :
    list.filter chosen <:+: list := by
  induction list with
  | nil => exact List.infix_refl []
  | cons x list ih =>
    obtain ⟨first, later⟩ := List.pairwise_cons.mp sorted
    by_cases head : chosen x = true
    · rw [List.filter_cons_of_pos head]
      apply List.IsPrefix.isInfix
      rw [List.prefix_cons_inj]
      apply filter_prefix_of_closed
      apply later.imp_of_mem
      intro y z member _ related taken
      exact between x y z (first y member) related head taken
    · rw [List.filter_cons_of_neg head]
      exact List.infix_cons (ih later)

end Runs

theorem filter_startsWith_infix (a : Path) (paths : List Path) :
    (sort paths).filter (·.startsWith a) <:+: sort paths := by
  apply filter_infix_of_between (pairwise_sort paths)
  intro p c q first second lower upper
  rw [startsWith_iff] at lower upper ⊢
  exact prefix_of_between lower upper first second

/-- A subtree is one run of the order, with its topmost path first.  Two paths that go on from the
same segments are compared by how they go on; two that go on from paths that have parted, as those
paths are. -/
theorem subtree_contiguous :
    (∀ a x y c : Path, (order (a.append x) c).isLE = true → (order c (a.append y)).isLE = true →
      a.segments <+: c.segments) ∧
    (∀ a x : Path, (order a (a.append x)).isLE = true ∧
      (order a (a.append x) = .eq ↔ x.segments = [])) ∧
    (∀ a b x y : Path, same a b = true → order (a.append x) (b.append y) = order x y) ∧
    (∀ a b x y : Path, ¬ a.segments <+: b.segments → ¬ b.segments <+: a.segments →
      order (a.append x) (b.append y) = order a b) ∧
    ∀ (a : Path) (paths : List Path),
      (sort paths).filter (·.startsWith a) <:+: sort paths := by
  refine ⟨?_, ?_, ?_, ?_, filter_startsWith_infix⟩
  · intro a x y c first second
    exact prefix_of_between (List.prefix_append _ _) (List.prefix_append _ _) first second
  · intro a x
    exact ⟨isLE_of_below (List.prefix_append _ _), order_append_eq_iff⟩
  · intro a b x y equal
    exact order_append_of_same equal x y
  · intro a b x y apart apart'
    exact order_of_apart apart apart' (List.prefix_append _ _) (List.prefix_append _ _)

/-- A path two levels down lies between two one level down and so in their subtree; one topmost path
under both kinds; and two that part at their second segments. -/
theorem subtree_contiguous_levels :
    ((order (append ⟨.priv, [⟨44⟩]⟩ ⟨.pub, [⟨7⟩]⟩) ⟨.pub, [⟨44⟩, ⟨7⟩, ⟨0⟩]⟩).isLE = true ∧
      (order ⟨.pub, [⟨44⟩, ⟨7⟩, ⟨0⟩]⟩ (append ⟨.priv, [⟨44⟩]⟩ ⟨.pub, [⟨0x80000000⟩]⟩)).isLE = true ∧
      Path.segments ⟨.priv, [⟨44⟩]⟩ <+: Path.segments ⟨.pub, [⟨44⟩, ⟨7⟩, ⟨0⟩]⟩) ∧
    (same ⟨.priv, [⟨44⟩]⟩ ⟨.pub, [⟨44⟩]⟩ = true ∧
      order (append ⟨.priv, [⟨44⟩]⟩ ⟨.pub, [⟨0x80000000⟩]⟩) (append ⟨.pub, [⟨44⟩]⟩ ⟨.priv, [⟨7⟩]⟩) =
        order ⟨.pub, [⟨0x80000000⟩]⟩ ⟨.priv, [⟨7⟩]⟩) ∧
    ¬ Path.segments ⟨.priv, [⟨44⟩, ⟨0⟩]⟩ <+: Path.segments ⟨.pub, [⟨44⟩, ⟨1⟩]⟩ ∧
    ¬ Path.segments ⟨.pub, [⟨44⟩, ⟨1⟩]⟩ <+: Path.segments ⟨.priv, [⟨44⟩, ⟨0⟩]⟩ ∧
    order (append ⟨.priv, [⟨44⟩, ⟨0⟩]⟩ ⟨.priv, [⟨0xffffffff⟩]⟩) (append ⟨.pub, [⟨44⟩, ⟨1⟩]⟩ root) =
      order ⟨.priv, [⟨44⟩, ⟨0⟩]⟩ ⟨.pub, [⟨44⟩, ⟨1⟩]⟩ := by
  obtain ⟨between, -, onward, parted, -⟩ := subtree_contiguous
  have first : (order (append ⟨.priv, [⟨44⟩]⟩ ⟨.pub, [⟨7⟩]⟩)
      ⟨.pub, [⟨44⟩, ⟨7⟩, ⟨0⟩]⟩).isLE = true := by decide
  have second : (order ⟨.pub, [⟨44⟩, ⟨7⟩, ⟨0⟩]⟩
      (append ⟨.priv, [⟨44⟩]⟩ ⟨.pub, [⟨0x80000000⟩]⟩)).isLE = true := by decide
  have equal : same ⟨.priv, [⟨44⟩]⟩ ⟨.pub, [⟨44⟩]⟩ = true := by decide
  have apart : ¬ Path.segments ⟨.priv, [⟨44⟩, ⟨0⟩]⟩ <+: Path.segments ⟨.pub, [⟨44⟩, ⟨1⟩]⟩ := by
    decide
  have apart' : ¬ Path.segments ⟨.pub, [⟨44⟩, ⟨1⟩]⟩ <+: Path.segments ⟨.priv, [⟨44⟩, ⟨0⟩]⟩ := by
    decide
  exact ⟨⟨first, second, between _ _ _ _ first second⟩, ⟨equal, onward _ _ _ _ equal⟩, apart, apart',
    parted _ _ _ _ apart apart'⟩

end KeyPath.Path
