import KeyPath.Path.Basic
import Std.Data.HashSet.Basic

/-!
# The order of paths

Paths are compared by their segments alone, as words are in a dictionary: the first difference
decides, and a path comes before those that go on from it.  The kind of keys never matters: paths
with the same segments are equal, are the same to a hasher, and keep the order they had when a list
is sorted.
-/

namespace KeyPath

namespace Segment

def comparison (a b : Segment) : Comparison := .byKey a.word b.word

def sort (segments : List Segment) : List Segment :=
  segments.mergeSort fun a b => a.word ≤ b.word

end Segment

namespace Path

/-- Dictionary order of segments. -/
def orderSegments : List Segment → List Segment → Ordering
  | [], [] => .eq
  | [], _ :: _ => .lt
  | _ :: _, [] => .gt
  | a :: as, b :: bs => (compare a b).then (orderSegments as bs)

def order (a b : Path) : Ordering := orderSegments a.segments b.segments

instance : Ord Path := ⟨order⟩

/-- Whether two paths have the same segments. -/
def same (a b : Path) : Bool := a.segments == b.segments

/-- What a path feeds to a hasher: its length and its words. -/
def hashInput (p : Path) : List UInt64 :=
  UInt64.ofNat p.length :: p.segments.map fun s => s.word.toUInt64

def comparison (a b : Path) : Comparison :=
  .of (order a b) (same a b) (a.hashInput == b.hashInput)

/-- The paths in order; of equal ones the earlier stays first. -/
def sort (paths : List Path) : List Path := paths.mergeSort fun a b => (order a b).isLE

/-- Keeps the first of each run of neighbours that are the same. -/
def dropRepeats : List Path → List Path
  | a :: b :: rest => if same a b then dropRepeats (a :: rest) else a :: dropRepeats (b :: rest)
  | [a] => [a]
  | [] => []
termination_by paths => paths.length

/-- How many paths with different segments there are. -/
def distinctCount (paths : List Path) : Nat :=
  (Std.HashSet.ofList (paths.map segments)).size

theorem same_iff {a b : Path} : same a b = true ↔ a.segments = b.segments := by
  simp [same]

theorem orderSegments_eq_iff {as bs : List Segment} : orderSegments as bs = .eq ↔ as = bs := by
  induction as generalizing bs with
  | nil => cases bs <;> simp [orderSegments]
  | cons a as ih =>
    cases bs with
    | nil => simp [orderSegments]
    | cons b bs =>
      rw [orderSegments, Ordering.then_eq_eq, ih, List.cons.injEq]
      have words : compare a.word b.word = .eq ↔ a.word = b.word :=
        Std.LawfulEqOrd.compare_eq_iff_eq
      change compare a.word b.word = .eq ∧ as = bs ↔ a = b ∧ as = bs
      rw [words, Segment.mk.injEq]

/-- The order calls two paths equal exactly when their segments are. -/
theorem order_eq_iff {a b : Path} : order a b = .eq ↔ same a b = true := by
  rw [order, orderSegments_eq_iff, same_iff]

/-- Paths with the same segments feed the same to a hasher. -/
theorem hashInput_eq_of_same {a b : Path} (h : same a b = true) : a.hashInput = b.hashInput := by
  rw [hashInput, hashInput, length, length, same_iff.mp h]

end Path

end KeyPath
