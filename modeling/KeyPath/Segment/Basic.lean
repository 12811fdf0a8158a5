import KeyPath.Fault

/-!
# Segments of a derivation path

A segment names one child key.  It is a 32-bit word: the lower 31 bits are the child's index, and
the top bit is set when the child is hardened.  Every word is a segment, and a segment is the pair
of its index and its hardened mark.
-/

namespace KeyPath

structure Segment where
  word : UInt32
deriving DecidableEq, Repr, Hashable

namespace Segment

/-- The least word of a hardened segment, and the bound of the indexes. -/
def boundary : UInt32 := 0x80000000

def index (s : Segment) : UInt32 := s.word &&& ~~~boundary

def hardened (s : Segment) : Bool := s.word &&& boundary != 0

/-- The segment of an index below the boundary. -/
def join (index : UInt32) (hardened : Bool) : Segment :=
  if hardened then ⟨index ||| boundary⟩ else ⟨index⟩

/-- The segment of an index, which has to be below the boundary. -/
def ofIndex (index : UInt32) (hardened : Bool) : Except Fault Segment :=
  if index < boundary then .ok (join index hardened) else .error (.invalidIndex index)

/-- The word as a signed number, negative when the segment is hardened. -/
def pack (s : Segment) : Int32 := s.word.toInt32

def ofPacked (packed : Int32) : Segment := ⟨packed.toUInt32⟩

def zero : Segment := join 0 false

def one : Segment := join 1 false

def zeroHardened : Segment := join 0 true

def oneHardened : Segment := join 1 true

instance : Inhabited Segment := ⟨zero⟩

/-- Segments are ordered as their words are: the hardened ones come last. -/
instance : Ord Segment := ⟨fun a b => compare a.word b.word⟩

theorem toNat_boundary : boundary.toNat = 0x80000000 := rfl

/-- Keeping all bits but the top one leaves the remainder by the boundary. -/
theorem toNat_and_not_boundary (word : UInt32) :
    (word &&& ~~~boundary).toNat = word.toNat % 0x80000000 := by
  have mask : (~~~boundary).toNat = 2 ^ 31 - 1 := rfl
  rw [UInt32.toNat_and, mask, Nat.and_two_pow_sub_one_eq_mod]

/-- The top bit is set in the words from the boundary on. -/
theorem and_boundary_ne_zero_iff (word : UInt32) :
    word &&& boundary ≠ 0 ↔ 0x80000000 ≤ word.toNat := by
  have bound := word.toNat_lt
  have high : (word.toNat &&& 2 ^ 31) / 2 ^ 31 = word.toNat / 2 ^ 31 % 2 := by
    rw [Nat.and_div_two_pow, Nat.div_self (by decide), Nat.and_one_is_mod]
  have low : (word.toNat &&& 2 ^ 31) % 2 ^ 31 = 0 := by
    rw [Nat.and_mod_two_pow, Nat.mod_self, Nat.and_zero]
  have bit : (word &&& boundary).toNat = word.toNat &&& 2 ^ 31 := UInt32.toNat_and _ _
  rw [ne_eq, ← UInt32.toNat_inj, bit, UInt32.toNat_zero]
  omega

/-- Setting the top bit of a word keeps the lower ones. -/
theorem toNat_or_boundary (word : UInt32) :
    (word ||| boundary).toNat = word.toNat % 0x80000000 + 0x80000000 := by
  have bound := word.toNat_lt
  have low : word.toNat % 0x80000000 < 2 ^ 31 := Nat.mod_lt _ (by decide)
  have joined : 0x80000000 + word.toNat % 0x80000000 =
      0x80000000 ||| word.toNat % 0x80000000 := Nat.two_pow_add_eq_or_of_lt low 1
  rw [UInt32.toNat_or, toNat_boundary]
  by_cases top : 0x80000000 ≤ word.toNat
  · have split : word.toNat = 0x80000000 ||| word.toNat % 0x80000000 := by
      rw [← joined]
      omega
    rw [split, Nat.or_comm, ← Nat.or_assoc, Nat.or_self, ← joined]
    omega
  · rw [Nat.mod_eq_of_lt (by omega)] at joined ⊢
    rw [Nat.or_comm, ← joined, Nat.add_comm]

theorem toNat_index (s : Segment) : s.index.toNat = s.word.toNat % 0x80000000 :=
  toNat_and_not_boundary s.word

theorem index_lt (s : Segment) : s.index.toNat < 0x80000000 := by
  rw [toNat_index]
  exact Nat.mod_lt _ (by decide)

theorem hardened_iff (s : Segment) : s.hardened = true ↔ 0x80000000 ≤ s.word.toNat := by
  rw [hardened, bne_iff_ne]
  exact and_boundary_ne_zero_iff s.word

theorem toNat_word_join {i : UInt32} (h : i.toNat < 0x80000000) (hard : Bool) :
    (join i hard).word.toNat = i.toNat + if hard then 0x80000000 else 0 := by
  cases hard with
  | false => simp [join]
  | true =>
    rw [join, if_pos rfl, toNat_or_boundary, Nat.mod_eq_of_lt h, if_pos rfl]

theorem ext_word {a b : Segment} (h : a.word.toNat = b.word.toNat) : a = b := by
  cases a
  cases b
  exact congrArg Segment.mk (UInt32.toNat_inj.mp h)

/-- A segment is the pair of its index and its mark. -/
theorem join_index_hardened (s : Segment) : join s.index s.hardened = s := by
  apply ext_word
  rw [toNat_word_join s.index_lt, toNat_index]
  have bound := s.word.toNat_lt
  cases hard : s.hardened with
  | false =>
    have : ¬ 0x80000000 ≤ s.word.toNat := fun h => by simp [(hardened_iff s).mpr h] at hard
    simp
    omega
  | true =>
    have := (hardened_iff s).mp hard
    simp
    omega

theorem index_join {i : UInt32} (h : i.toNat < 0x80000000) (hard : Bool) : (join i hard).index = i := by
  apply UInt32.toNat_inj.mp
  rw [toNat_index, toNat_word_join h]
  cases hard <;> simp <;> omega

theorem hardened_join {i : UInt32} (h : i.toNat < 0x80000000) (hard : Bool) :
    (join i hard).hardened = hard := by
  have := hardened_iff (join i hard)
  rw [toNat_word_join h] at this
  cases hard with
  | false =>
    rw [Bool.eq_false_iff]
    intro contra
    have := this.mp contra
    simp at this
    omega
  | true => exact this.mpr (by simp)

@[simp] theorem ofPacked_pack (s : Segment) : ofPacked s.pack = s := by
  simp [ofPacked, pack]

@[simp] theorem pack_ofPacked (packed : Int32) : (ofPacked packed).pack = packed := by
  simp [ofPacked, pack]

end Segment

end KeyPath
