import KeyPath.Proofs.Path.Ancestors
import KeyPath.Session.Run

/-!
# Extension, parents and positions

Putting one path after another is putting their segments together under the kind of the first.  The
parents of the result take the second path away again, segment by segment, and then go on from the
first.  A position of the result is one of the first path or, after these, one of the second; past
both every way of reading a position fails.
-/

namespace KeyPath.Path

open Session (Query)

variable {p a : Path} {i : Nat} {s : Segment} {kept : List Path}

theorem length_append (p a : Path) : (p.append a).length = p.length + a.length :=
  List.length_append

theorem append_assoc (p a b : Path) : (p.append a).append b = p.append (a.append b) := by
  simp only [append, extend, List.append_assoc]

theorem take_length_append (p a : Path) : (p.append a).take p.length = p := by
  rw [take, segments_append, kind_append, length, List.take_left]

/-- The last segments go first, so the added path is gone after one step for each of them. -/
theorem iterate_parent_append (p a : Path) (k : Nat) :
    parent^[a.length + k] (p.append a) = parent^[k] p := by
  have back : parent^[a.length] (p.append a) = p := by
    rw [iterate_parent, length_append, Nat.add_sub_cancel, take_length_append]
  rw [Nat.add_comm, Function.iterate_add_apply, back]

/-- A position is inside, and its segment is had, or the fault tells it and the path's length. -/
theorem segment_eq (p : Path) (i : Nat) :
    p.segment i =
      if inside : i < p.segments.length then .ok p.segments[i]
      else .error (.outOfBounds i p.length) := by
  unfold segment get?
  split
  · next s found =>
    obtain ⟨inside, rfl⟩ := List.getElem?_eq_some_iff.mp found
    rw [dif_pos inside]
  · next missing =>
    have outside : p.segments.length ≤ i := List.getElem?_eq_none_iff.mp missing
    rw [dif_neg (Nat.not_lt.mpr outside)]

theorem segment_append (p a : Path) (i : Nat) :
    (p.append a).segment i =
      if first : i < p.segments.length then .ok p.segments[i]
      else if second : i - p.segments.length < a.segments.length then
        .ok a.segments[i - p.segments.length]
      else .error (.outOfBounds i (p.length + a.length)) := by
  have total : (p.append a).segments.length = p.segments.length + a.segments.length :=
    length_append p a
  rw [segment_eq, length_append]
  by_cases first : i < p.segments.length
  · rw [dif_pos first, dif_pos (by omega)]
    exact congrArg Except.ok (List.getElem_append_left first)
  · rw [dif_neg first]
    by_cases second : i - p.segments.length < a.segments.length
    · rw [dif_pos second, dif_pos (by omega)]
      exact congrArg Except.ok (List.getElem_append_right (Nat.not_lt.mp first))
    · rw [dif_neg second, dif_neg (by omega)]

theorem segment_eq_error_iff : (∃ fault, p.segment i = .error fault) ↔ p.get? i = none := by
  unfold segment
  cases p.get? i with
  | some s => simp
  | none => simp

theorem answer_at_eq_word_iff :
    Query.answer kept p (.at i) = .word s ↔ p.segment i = .ok s := by
  rw [segment_eq_ok_iff, ← get?, Query.answer]
  cases p.get? i with
  | some t => simp
  | none => simp

theorem answer_at_eq_failed_iff :
    Query.answer kept p (.at i) = .failed .brokenPromise ↔ ∃ fault, p.segment i = .error fault := by
  rw [segment_eq_error_iff, Query.answer]
  cases p.get? i with
  | some t => simp
  | none => simp

/-- Extending is associative and keeps the kind it started with; the parents undo it segment by
segment; and a position of the result is one of the first path, one of the second, or past both,
which all ways of reading it agree on. -/
theorem extension_algebra (p a b : Path) :
    (((p.append a).append b).segments = (p.append (a.append b)).segments ∧
      ((p.append a).append b).kind = p.kind ∧ (p.append (a.append b)).kind = p.kind) ∧
    (parent^[a.length] (p.append a) = p ∧
      ∀ k, parent^[a.length + k] (p.append a) = parent^[k] p) ∧
    (∀ i, (p.append a).segment i =
      if first : i < p.segments.length then .ok p.segments[i]
      else if second : i - p.segments.length < a.segments.length then
        .ok a.segments[i - p.segments.length]
      else .error (.outOfBounds i (p.length + a.length))) ∧
    ∀ i kept,
      (∀ s, ((p.append a).get? i = some s ↔ (p.append a).segment i = .ok s) ∧
        (Query.answer kept (p.append a) (.at i) = .word s ↔ (p.append a).segment i = .ok s)) ∧
      ((p.append a).get? i = none ↔ ∃ fault, (p.append a).segment i = .error fault) ∧
      (Query.answer kept (p.append a) (.at i) = .failed .brokenPromise ↔
        ∃ fault, (p.append a).segment i = .error fault) := by
  refine ⟨⟨by rw [append_assoc], rfl, rfl⟩, ⟨p.iterate_parent_append a 0, p.iterate_parent_append a⟩,
    p.segment_append a, ?_⟩
  intro i kept
  exact ⟨fun s => ⟨segment_eq_ok_iff.symm, answer_at_eq_word_iff⟩, segment_eq_error_iff.symm,
    answer_at_eq_failed_iff⟩

example : Path.parent^[3] (append ⟨.priv, [⟨44⟩]⟩ ⟨.pub, [⟨0⟩, ⟨1⟩]⟩) = ⟨.priv, []⟩ := by
  decide

end KeyPath.Path
