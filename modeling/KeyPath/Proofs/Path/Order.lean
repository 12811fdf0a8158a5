import KeyPath.Path.Order
import KeyPath.Proofs.Segment.Order

/-!
# The order of paths is lawful

Whatever kinds of keys the paths have, comparing them is comparing their segments as words in a
dictionary are compared.  It is a total order up to equal segments, and the other ways of telling
two paths apart agree with it: being the same, packing to the same words, the partial order, and
what a hasher is fed.
-/

namespace KeyPath.Path

/-- The first difference decides, and a list comes before those that go on from it. -/
inductive Precedes : List Segment → List Segment → Prop where
  | goesOn (front : List Segment) (s : Segment) (rest : List Segment) :
      Precedes front (front ++ s :: rest)
  | differs (front : List Segment) {a b : Segment} (before : a.Before b) (as bs : List Segment) :
      Precedes (front ++ a :: as) (front ++ b :: bs)

variable {as bs : List Segment} {a b : Path}

theorem Precedes.cons (s : Segment) (precedes : Precedes as bs) : Precedes (s :: as) (s :: bs) := by
  cases precedes with
  | goesOn front next rest => exact .goesOn (s :: as) next rest
  | differs front before as bs => exact .differs (s :: front) before as bs

/-- A common beginning does not matter. -/
theorem orderSegments_append (front as bs : List Segment) :
    orderSegments (front ++ as) (front ++ bs) = orderSegments as bs := by
  induction front with
  | nil => rfl
  | cons s front ih =>
    rw [List.cons_append, List.cons_append, orderSegments, Std.ReflOrd.compare_self]
    exact ih

theorem orderSegments_eq_lt_iff : orderSegments as bs = .lt ↔ Precedes as bs := by
  constructor
  · intro less
    induction as generalizing bs with
    | nil =>
      cases bs with
      | nil => cases less
      | cons b bs => exact .goesOn [] b bs
    | cons a as ih =>
      cases bs with
      | nil => cases less
      | cons b bs =>
        rw [orderSegments, Ordering.then_eq_lt] at less
        rcases less with first | ⟨same, later⟩
        · exact .differs [] (Segment.compare_eq_lt_iff.mp first) as bs
        · obtain rfl : a = b := Std.LawfulEqOrd.eq_of_compare same
          exact (ih later).cons a
  · intro precedes
    cases precedes with
    | goesOn front s rest =>
      have more := orderSegments_append as [] (s :: rest)
      rwa [List.append_nil] at more
    | differs front before as bs =>
      rw [orderSegments_append, orderSegments, Segment.compare_eq_lt_iff.mpr before]
      rfl

/-- The dictionary order is the library's order of lists. -/
theorem orderSegments_eq_compare (as bs : List Segment) : orderSegments as bs = compare as bs := by
  induction as generalizing bs with
  | nil => cases bs <;> rfl
  | cons a as ih =>
    cases bs with
    | nil => rfl
    | cons b bs => rw [orderSegments, ih, List.compare_cons_cons]

theorem order_eq_compare (a b : Path) : order a b = compareOn segments a b :=
  orderSegments_eq_compare a.segments b.segments

instance : Std.TransCmp order where
  eq_swap {a b} := by
    rw [order_eq_compare, order_eq_compare]
    exact Std.OrientedCmp.eq_swap
  isLE_trans {a b c} first second := by
    rw [order_eq_compare] at first second ⊢
    exact Std.TransCmp.isLE_trans first second

theorem order_eq_lt_iff : order a b = .lt ↔ Precedes a.segments b.segments :=
  orderSegments_eq_lt_iff

theorem order_self (a : Path) : order a a = .eq := Std.ReflCmp.compare_self

theorem order_total (a b : Path) : (order a b).isLE = true ∨ (order b a).isLE = true := by
  by_cases first : (order a b).isLE = true
  · exact Or.inl first
  · have less : order b a = .lt := Std.OrientedCmp.lt_of_not_isLE first
    exact Or.inr (by rw [less]; rfl)

theorem segments_eq_of_isLE (first : (order a b).isLE = true) (second : (order b a).isLE = true) :
    a.segments = b.segments :=
  same_iff.mp (order_eq_iff.mp (Std.OrientedCmp.isLE_antisymm first second))

theorem pack_inj : a.pack = b.pack ↔ a.segments = b.segments :=
  List.map_inj_right (Function.LeftInverse.injective Segment.ofPacked_pack)

/-- Different segments are fed to a hasher as different numbers. -/
theorem hashInput_inj : a.hashInput = b.hashInput ↔ a.segments = b.segments := by
  constructor
  · intro same
    have injective : Function.Injective fun s : Segment => s.word.toUInt64 := by
      intro s t words
      exact Segment.ext_word (by simpa using congrArg UInt64.toNat words)
    exact (List.map_inj_right injective).mp (List.cons.inj same).2
  · intro same
    exact hashInput_eq_of_same (same_iff.mpr same)

/-- Comparing paths is one total order up to equal segments, the dictionary order, and all other
ways of telling two paths apart agree with it. -/
theorem order_lawful :
    ((∀ a, order a a = .eq) ∧
      (∀ a b, (order a b).isLE = true → (order b a).isLE = true → a.segments = b.segments) ∧
      (∀ a b c, (order a b).isLE = true → (order b c).isLE = true → (order a c).isLE = true) ∧
      ∀ a b, (order a b).isLE = true ∨ (order b a).isLE = true) ∧
    (∀ a b, (order a b = .lt ↔ Precedes a.segments b.segments) ∧
      (order a b = .gt ↔ Precedes b.segments a.segments)) ∧
    (∀ a b, (order a b = .eq ↔ same a b = true) ∧ (same a b = true ↔ a.pack = b.pack)) ∧
    (∀ a b, (comparison a b).order = order a b ∧
      (comparison a b).partialOrder = some (order a b) ∧
      ((comparison a b).less = true ↔ order a b = .lt) ∧
      (comparison a b).equal = same a b) ∧
    ∀ a b, same a b = true ↔ a.hashInput = b.hashInput := by
  refine ⟨⟨order_self, ?_, ?_, order_total⟩, ?_, ?_, ?_, ?_⟩
  · intro a b first second
    exact segments_eq_of_isLE first second
  · intro a b c first second
    exact Std.TransCmp.isLE_trans first second
  · intro a b
    exact ⟨order_eq_lt_iff, Std.OrientedCmp.gt_iff_lt.trans order_eq_lt_iff⟩
  · intro a b
    exact ⟨order_eq_iff, same_iff.trans pack_inj.symm⟩
  · intro a b
    exact ⟨rfl, rfl, beq_iff_eq, rfl⟩
  · intro a b
    exact same_iff.trans hashInput_inj.symm

/-- A path, one that goes on from it and a hardened one, whose packed word is the least of all, are in
this order whatever their kinds; and one list of segments under both kinds is a tie. -/
theorem order_lawful_across_kinds :
    ((order ⟨.priv, [⟨5⟩]⟩ ⟨.pub, [⟨5⟩, ⟨0⟩]⟩).isLE = true ∧
      (order ⟨.pub, [⟨5⟩, ⟨0⟩]⟩ ⟨.priv, [⟨0x80000000⟩]⟩).isLE = true ∧
      (order ⟨.priv, [⟨5⟩]⟩ ⟨.priv, [⟨0x80000000⟩]⟩).isLE = true) ∧
    (order ⟨.priv, [⟨44⟩]⟩ ⟨.pub, [⟨44⟩]⟩).isLE = true ∧
    (order ⟨.pub, [⟨44⟩]⟩ ⟨.priv, [⟨44⟩]⟩).isLE = true ∧
    Path.segments ⟨.priv, [⟨44⟩]⟩ = Path.segments ⟨.pub, [⟨44⟩]⟩ := by
  have shorter : (order ⟨.priv, [⟨5⟩]⟩ ⟨.pub, [⟨5⟩, ⟨0⟩]⟩).isLE = true := by decide
  have marked : (order ⟨.pub, [⟨5⟩, ⟨0⟩]⟩ ⟨.priv, [⟨0x80000000⟩]⟩).isLE = true := by decide
  have tie : (order ⟨.priv, [⟨44⟩]⟩ ⟨.pub, [⟨44⟩]⟩).isLE = true := by decide
  have tie' : (order ⟨.pub, [⟨44⟩]⟩ ⟨.priv, [⟨44⟩]⟩).isLE = true := by decide
  exact ⟨⟨shorter, marked, order_lawful.1.2.2.1 _ _ _ shorter marked⟩, tie, tie',
    order_lawful.1.2.1 _ _ tie tie'⟩

end KeyPath.Path
