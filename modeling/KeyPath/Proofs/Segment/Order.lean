import KeyPath.Segment.Basic

/-!
# The order of segments

Segments are compared by their words.  Said by index and mark, every segment that is not hardened
comes before every hardened one, and segments with the same mark are in the order of their indexes.
This is not the order of the packed words, where the sign puts the hardened segments first.
-/

namespace KeyPath.Segment

/-- The mark decides, and between segments with the same mark the index. -/
inductive Before (a b : Segment) : Prop where
  | mark (normal : a.hardened = false) (hardened : b.hardened = true)
  | index (sameMark : a.hardened = b.hardened) (less : a.index.toNat < b.index.toNat)

variable {a b : Segment}

theorem toNat_word (s : Segment) :
    s.word.toNat = s.index.toNat + if s.hardened then 0x80000000 else 0 := by
  have joined := toNat_word_join s.index_lt s.hardened
  rwa [join_index_hardened] at joined

theorem before_iff : a.Before b ↔ a.word.toNat < b.word.toNat := by
  have small := a.index_lt
  rw [toNat_word a, toNat_word b]
  constructor
  · intro before
    cases before with
    | mark normal hardened =>
      simp only [normal, hardened, Bool.false_eq_true, if_false, if_true]
      omega
    | index sameMark less =>
      rw [sameMark]
      omega
  · intro less
    by_cases sameMark : a.hardened = b.hardened
    · rw [sameMark] at less
      exact .index sameMark (by omega)
    · have small' := b.index_lt
      cases marked : a.hardened with
      | false => exact .mark marked (by simpa [marked] using sameMark)
      | true =>
        have normal : b.hardened = false := by simpa [marked] using sameMark
        simp only [marked, normal, Bool.false_eq_true, if_false, if_true] at less
        omega

instance : Std.TransOrd Segment := inferInstanceAs (Std.TransCmp (compareOn word))

instance : Std.LawfulEqOrd Segment where
  eq_of_compare {a b} same :=
    have words : a.word = b.word := Std.LawfulEqOrd.eq_of_compare same
    ext_word (congrArg UInt32.toNat words)

theorem compare_eq_lt_iff : compare a b = .lt ↔ a.Before b := by
  have words : compare a.word b.word = .lt ↔ a.word < b.word := Std.compare_eq_lt
  rw [before_iff, ← UInt32.lt_iff_toNat_lt, ← words]
  rfl

end KeyPath.Segment
