import KeyPath.Text.Blank

/-!
# Trimmed texts

A text is trimmed when no blank stands at either end of it.  Trimming gives a trimmed text, and it
takes away exactly the blanks that were put around one.
-/

namespace KeyPath.Text

/-- No blank stands first or last. -/
structure Trimmed (cs : List Char) : Prop where
  first : ∀ c, cs.head? = some c → isBlank c = false
  last : ∀ c, cs.getLast? = some c → isBlank c = false

theorem trimStart_blanks_append {before : List Char} (blanks : ∀ c ∈ before, isBlank c = true)
    (cs : List Char) : trimStart (before ++ cs) = trimStart cs :=
  List.dropWhile_append_of_pos blanks

theorem trimEnd_append_blanks {after : List Char} (blanks : ∀ c ∈ after, isBlank c = true)
    (cs : List Char) : trimEnd (cs ++ after) = trimEnd cs := by
  have reversed : ∀ c ∈ after.reverse, isBlank c = true := by
    intro c member
    exact blanks c (List.mem_reverse.mp member)
  rw [trimEnd, List.reverse_append, List.dropWhile_append_of_pos reversed, trimEnd]

theorem trimStart_eq_self {cs : List Char} (first : ∀ c, cs.head? = some c → isBlank c = false) :
    trimStart cs = cs := by
  cases cs with
  | nil => rfl
  | cons c cs =>
    have kept : ¬ isBlank c = true := by simp [first c rfl]
    exact List.dropWhile_cons_of_neg kept

theorem trimEnd_eq_self {cs : List Char} (last : ∀ c, cs.getLast? = some c → isBlank c = false) :
    trimEnd cs = cs := by
  have kept : trimStart cs.reverse = cs.reverse := by
    apply trimStart_eq_self
    intro c eq
    exact last c (by rwa [List.head?_reverse] at eq)
  rw [trimEnd, ← trimStart, kept, List.reverse_reverse]

/-- Trimming takes the blanks away that stand around a trimmed text. -/
theorem trim_blanks_around {before cs after : List Char}
    (blanksBefore : ∀ c ∈ before, isBlank c = true) (trimmed : Trimmed cs)
    (blanksAfter : ∀ c ∈ after, isBlank c = true) : trim (before ++ (cs ++ after)) = cs := by
  rw [trim, trimStart_blanks_append blanksBefore]
  cases cs with
  | nil =>
    rw [List.nil_append, trimStart_of_all blanksAfter]
    rfl
  | cons c cs =>
    have first : ∀ d, (c :: cs ++ after).head? = some d → isBlank d = false := trimmed.first
    rw [trimStart_eq_self first, trimEnd_append_blanks blanksAfter, trimEnd_eq_self trimmed.last]

theorem trimEnd_cons {c : Char} (kept : isBlank c = false) (cs : List Char) :
    trimEnd (c :: cs) = c :: trimEnd cs := by
  have stops : ¬ isBlank c = true := by simp [kept]
  rw [trimEnd, List.reverse_cons, List.dropWhile_append, List.dropWhile_cons_of_neg stops, trimEnd]
  split
  · next blank => rw [List.isEmpty_iff.mp blank]; rfl
  · rw [List.reverse_append]; rfl

/-- The first character that is no blank begins the trimmed text. -/
theorem trim_blanks_cons {before : List Char} (blanks : ∀ c ∈ before, isBlank c = true) {c : Char}
    (kept : isBlank c = false) (cs : List Char) : trim (before ++ c :: cs) = c :: trimEnd cs := by
  have first : ∀ d, (c :: cs).head? = some d → isBlank d = false := by
    intro d eq
    rwa [← Option.some.inj eq]
  rw [trim, trimStart_blanks_append blanks, trimStart_eq_self first, trimEnd_cons kept]

theorem trim_of_trimmed {cs : List Char} (trimmed : Trimmed cs) : trim cs = cs := by
  have eq : trim ([] ++ (cs ++ [])) = cs := trim_blanks_around (by simp) trimmed (by simp)
  simpa using eq

theorem leadingBlanks_of_trimmed {cs : List Char} (trimmed : Trimmed cs) :
    leadingBlanks cs = [] := by
  have split := leadingBlanks_append_trimStart cs
  rw [trimStart_eq_self trimmed.first] at split
  simpa using split

theorem isBlank_last_trimEnd {cs : List Char} {c : Char} (last : (trimEnd cs).getLast? = some c) :
    isBlank c = false := by
  have stopped := List.head?_dropWhile_not isBlank cs.reverse
  rw [trimEnd, List.getLast?_reverse] at last
  rwa [last] at stopped

theorem trimmed_trim (cs : List Char) : Trimmed (trim cs) := by
  constructor
  · intro c eq
    have start : (trimStart cs).head? = some c := by
      rw [← trimEnd_append_trailingBlanks (trimStart cs), ← trim, List.head?_append, eq,
        Option.some_or]
    have stopped := List.head?_dropWhile_not isBlank cs
    rwa [← trimStart, start] at stopped
  · intro c eq
    exact isBlank_last_trimEnd eq

theorem mem_of_mem_trim {cs : List Char} {c : Char} (member : c ∈ trim cs) : c ∈ cs := by
  rw [← leadingBlanks_append_trim cs]
  simp [member]

end KeyPath.Text
