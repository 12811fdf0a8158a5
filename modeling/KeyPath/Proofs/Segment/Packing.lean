import KeyPath.Proofs.Segment.Order
import Mathlib.Logic.Function.Basic

/-!
# Words, indexes and packed words

Every word is one segment: the segment of the word's lower bits as index and of its top bit as
mark, and no other index and mark give it.  The packed word is the same 32 bits with a sign, so it is
negative for hardened segments, and every signed word is a packed one.  The order of segments is
that of the packed words where the marks agree, and the reverse of it where they differ.
-/

namespace KeyPath.Segment

variable {a b c : Segment} {index : UInt32} {hard : Bool}

/-- The packed word of a hardened segment is its word less all the words there are. -/
theorem toInt_pack (s : Segment) :
    s.pack.toInt = if s.hardened then (s.word.toNat : Int) - 0x100000000 else s.word.toNat := by
  have signed : s.pack.toInt = if 2 * s.word.toNat < 0x100000000 then (s.word.toNat : Int)
      else s.word.toNat - (0x100000000 : Nat) := BitVec.toInt_eq_toNat_cond s.word.toBitVec
  by_cases hard : s.hardened = true
  · have large := (hardened_iff s).mp hard
    rw [signed, if_neg (by omega), if_pos hard]
    rfl
  · have small : ¬ 0x80000000 ≤ s.word.toNat := fun large => hard ((hardened_iff s).mpr large)
    rw [signed, if_pos (by omega), if_neg hard]

theorem toInt_pack_neg_iff (s : Segment) : s.pack.toInt < 0 ↔ s.hardened = true := by
  have bound : s.word.toNat < 0x100000000 := s.word.toNat_lt
  rw [toInt_pack]
  cases s.hardened with
  | false => simp
  | true =>
    simp only [if_true, iff_true]
    omega

theorem bijective_ofPacked : Function.Bijective ofPacked :=
  Function.bijective_iff_has_inverse.mpr ⟨pack, pack_ofPacked, ofPacked_pack⟩

/-- An index and a mark give a segment exactly when the index leaves the top bit free. -/
theorem exists_ofIndex_eq_ok_iff :
    (∃ c, ofIndex index hard = .ok c ∧ c.index = index ∧ c.hardened = hard) ↔
      index.toNat < 0x80000000 := by
  constructor
  · rintro ⟨c, -, rfl, -⟩
    exact c.index_lt
  · intro small
    have fits : index < boundary := UInt32.lt_iff_toNat_lt.mpr small
    exact ⟨join index hard, if_pos fits, index_join small hard, hardened_join small hard⟩

theorem ofIndex_eq_error_iff :
    ofIndex index hard = .error (.invalidIndex index) ↔ ¬ index.toNat < 0x80000000 := by
  have fits : index < boundary ↔ index.toNat < 0x80000000 := UInt32.lt_iff_toNat_lt
  rw [ofIndex, ← fits]
  by_cases small : index < boundary
  · simp [small]
  · simp [small]

theorem ofIndex_index_hardened (s : Segment) : ofIndex s.index s.hardened = .ok s := by
  have small : s.index < boundary := UInt32.lt_iff_toNat_lt.mpr s.index_lt
  rw [ofIndex, if_pos small, join_index_hardened]

/-- Only across the marks does the sign of the packed words turn the order round. -/
theorem before_iff_pack (a b : Segment) :
    a.Before b ↔
      if a.hardened = b.hardened then a.pack.toInt < b.pack.toInt
      else b.pack.toInt < a.pack.toInt := by
  have smallA := a.index_lt
  have smallB := b.index_lt
  rw [before_iff, toInt_pack, toInt_pack, toNat_word a, toNat_word b]
  cases a.hardened <;> cases b.hardened <;> simp <;> omega

theorem compare_pack_eq_lt_iff :
    compare a.pack b.pack = .lt ↔ a.pack.toInt < b.pack.toInt :=
  Std.compare_eq_lt.trans Int32.lt_iff_toInt_lt

theorem compare_pack_eq_gt_iff :
    compare a.pack b.pack = .gt ↔ b.pack.toInt < a.pack.toInt :=
  Std.compare_eq_gt.trans Int32.lt_iff_toInt_lt

theorem compare_eq_gt_iff : compare a b = .gt ↔ b.Before a := by
  rw [← compare_eq_lt_iff, Std.OrientedOrd.eq_swap (a := b), Ordering.swap_eq_lt]

/-- Two comparisons that agree on what is less and on what is greater are the same. -/
theorem ordering_ext {o o' : Ordering} (less : o = .lt ↔ o' = .lt) (greater : o = .gt ↔ o' = .gt) :
    o = o' := by
  cases o <;> cases o' <;> simp_all

theorem compare_eq_compare_pack (a b : Segment) :
    compare a b =
      if a.hardened = b.hardened then compare a.pack b.pack else (compare a.pack b.pack).swap := by
  have less := before_iff_pack a b
  have greater := before_iff_pack b a
  by_cases same : a.hardened = b.hardened
  · rw [if_pos same] at less ⊢
    rw [if_pos same.symm] at greater
    apply ordering_ext
    · exact compare_eq_lt_iff.trans (less.trans compare_pack_eq_lt_iff.symm)
    · exact compare_eq_gt_iff.trans (greater.trans compare_pack_eq_gt_iff.symm)
  · rw [if_neg same] at less ⊢
    rw [if_neg (Ne.symm same)] at greater
    apply ordering_ext
    · rw [Ordering.swap_eq_lt]
      exact compare_eq_lt_iff.trans (less.trans compare_pack_eq_gt_iff.symm)
    · rw [Ordering.swap_eq_gt]
      exact compare_eq_gt_iff.trans (greater.trans compare_pack_eq_lt_iff.symm)

/-- Every word is the segment of one index and one mark, and the same 32 bits with a sign are its
packed word; an index with the top bit makes no segment.  Segments are in the order of their marks
and then of their indexes, which between different marks is the reverse of the packed words'. -/
theorem word_decomposes :
    (∀ v : UInt32, let c : Segment := ⟨v⟩
      c.index.toNat < 0x80000000 ∧
      v.toNat = c.index.toNat + (if c.hardened then 0x80000000 else 0) ∧
      ofIndex c.index c.hardened = .ok c ∧
      ofPacked c.pack = c ∧
      (c.pack.toInt < 0 ↔ c.hardened = true) ∧
      c.pack.toInt = if c.hardened then (v.toNat : Int) - 0x100000000 else v.toNat) ∧
    (Function.Bijective ofPacked ∧ Function.LeftInverse pack ofPacked ∧
      Function.RightInverse pack ofPacked) ∧
    (∀ index hard,
      ((∃ c, ofIndex index hard = .ok c ∧ c.index = index ∧ c.hardened = hard) ↔
        index.toNat < 0x80000000) ∧
      (ofIndex index hard = .error (.invalidIndex index) ↔ ¬ index.toNat < 0x80000000)) ∧
    ∀ a b : Segment,
      ((compare a b = .lt ↔ a.Before b) ∧ (compare a b = .eq ↔ a = b) ∧
        (compare a b = .gt ↔ b.Before a)) ∧
      compare a b =
        if a.hardened = b.hardened then compare a.pack b.pack
        else (compare a.pack b.pack).swap := by
  refine ⟨?_, ⟨bijective_ofPacked, pack_ofPacked, ofPacked_pack⟩, ?_, ?_⟩
  · intro v c
    exact ⟨c.index_lt, c.toNat_word, c.ofIndex_index_hardened, c.ofPacked_pack,
      c.toInt_pack_neg_iff, c.toInt_pack⟩
  · intro index hard
    exact ⟨exists_ofIndex_eq_ok_iff, ofIndex_eq_error_iff⟩
  · intro a b
    exact ⟨⟨compare_eq_lt_iff, Std.compare_eq_iff_eq, compare_eq_gt_iff⟩,
      a.compare_eq_compare_pack b⟩

example : compare (ofPacked (-1)) (ofPacked 1) = .gt := by decide
example : (ofPacked (-1)).index = 0x7fffffff := by decide

end KeyPath.Segment
