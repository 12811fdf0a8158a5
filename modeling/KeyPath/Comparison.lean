/-!
# Comparisons

The answers to all the ways of comparing two values of an ordered type.  A type brings its order,
its equality and what it feeds to a hasher; the partial order is the order itself, and a value is
less than another exactly when the order says so.
-/

namespace KeyPath

structure Comparison where
  order : Ordering
  partialOrder : Option Ordering
  equal : Bool
  less : Bool
  sameHash : Bool
deriving DecidableEq, Repr

namespace Comparison

def of (order : Ordering) (equal sameHash : Bool) : Comparison :=
  ⟨order, some order, equal, order == .lt, sameHash⟩

/-- Compares two values by a key that tells them apart, as numbers, texts or tags do. -/
def byKey {κ : Type} [Ord κ] [DecidableEq κ] (a b : κ) : Comparison :=
  of (compare a b) (a == b) (a == b)

end Comparison

end KeyPath
