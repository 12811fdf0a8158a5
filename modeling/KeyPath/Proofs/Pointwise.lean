import Mathlib.Data.List.Forall2

/-!
# Reading lists item by item

A list is read by reading its items in order and stopping at the first one that cannot be read.
Such a reading gives a list whose items are those of the first one by one, and it gives one exactly
when each item can be read.
-/

namespace KeyPath

variable {ε α β : Type}

section
variable {f : α → β} {x : Except ε α}

theorem map_eq_ok_iff {b : β} : x.map f = .ok b ↔ ∃ a, x = .ok a ∧ f a = b := by
  cases x with
  | error e => simp [Except.map]
  | ok a => simp [Except.map]

theorem map_eq_error_iff {e : ε} : x.map f = .error e ↔ x = .error e := by
  cases x with
  | error e => simp [Except.map]
  | ok a => simp [Except.map]

theorem mapError_eq_ok_iff {ε' : Type} {g : ε → ε'} {a : α} :
    x.mapError g = .ok a ↔ x = .ok a := by
  cases x with
  | error e => simp [Except.mapError]
  | ok b => simp [Except.mapError]

end

variable {xs : List α} {ys : List β}

theorem mapM_eq_ok_iff {read : α → Except ε β} :
    xs.mapM read = .ok ys ↔ List.Forall₂ (fun y x => read x = .ok y) ys xs := by
  induction xs generalizing ys with
  | nil => simp [pure, Except.pure, eq_comm]
  | cons x xs ih =>
    rw [List.mapM_cons, List.forall₂_cons_right_iff]
    simp only [← ih]
    cases read x with
    | error e => simp [bind, Except.bind]
    | ok y =>
      cases xs.mapM read with
      | error e => simp [bind, Except.bind]
      | ok rest => simp [bind, Except.bind, pure, Except.pure, eq_comm]

theorem mapM_eq_some_iff {read : α → Option β} :
    xs.mapM read = some ys ↔ List.Forall₂ (fun y x => read x = some y) ys xs := by
  induction xs generalizing ys with
  | nil => simp [eq_comm]
  | cons x xs ih =>
    rw [List.mapM_cons, List.forall₂_cons_right_iff]
    simp only [← ih]
    cases read x with
    | none => simp
    | some y => cases xs.mapM read <;> simp [eq_comm]

/-- There is a list of results when there is a result for each item. -/
theorem exists_forall₂_iff {R : β → α → Prop} :
    (∃ ys, List.Forall₂ R ys xs) ↔ ∀ x ∈ xs, ∃ y, R y x := by
  induction xs with
  | nil => simp
  | cons x xs ih =>
    rw [List.forall_mem_cons, ← ih]
    constructor
    · rintro ⟨ys, all⟩
      obtain ⟨y, rest, first, later, rfl⟩ := List.forall₂_cons_right_iff.mp all
      exact ⟨⟨y, first⟩, rest, later⟩
    · rintro ⟨⟨y, first⟩, rest, later⟩
      exact ⟨y :: rest, .cons first later⟩

end KeyPath
