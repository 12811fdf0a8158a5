import KeyPath.Proofs.Segment.Language

/-!
# Why tokens are refused

A trimmed token that spells no segment has exactly one fault.  Without its mark, and the blanks
before the mark, it is empty, or it has a character that is no digit, or it is a run of digits whose
number takes more than 31 bits, however long the run is.
-/

namespace KeyPath.Segment

open Text

/-- What a token is without one mark at its end and the blanks before the mark. -/
inductive Stem : List Char → List Char → Prop where
  | bare {token : List Char} (unmarked : ∀ c, token.getLast? = some c → isMark c = false) :
      Stem token token
  | marked {stem blanks : List Char} {mark : Char}
      (last : ∀ c, stem.getLast? = some c → isBlank c = false)
      (blank : ∀ c ∈ blanks, isBlank c = true) (marks : isMark mark = true) :
      Stem (stem ++ blanks ++ [mark]) stem

/-- What is wrong with a token. -/
inductive Refused (token : List Char) : TokenFault → Prop where
  | empty (lone : token = [] ∨ token = ['H'] ∨ token = ['h'] ∨ token = ['\x27']) :
      Refused token .empty
  | invalidDigits {stem : List Char} (left : Stem token stem) {c : Char} (inside : c ∈ stem)
      (other : c.isDigit = false) : Refused token .invalidDigits
  | indexOverflow {stem : List Char} (left : Stem token stem)
      (isDigit : ∀ c ∈ stem, c.isDigit = true) (large : 0x80000000 ≤ Decimal.value stem) :
      Refused token .indexOverflow

variable {token stem : List Char} {reason : TokenFault}

/-- Taking the mark off leaves the stem. -/
theorem stem_iff : Stem token stem ↔ (splitMark token).1 = stem := by
  constructor
  · intro left
    cases left with
    | bare unmarked =>
      rcases List.eq_nil_or_concat token with rfl | ⟨front, last, rfl⟩
      · rfl
      · rw [List.concat_eq_append] at unmarked ⊢
        have plain : isMark last = false := unmarked last List.getLast?_concat
        rw [splitMark_concat, plain]
        rfl
    | marked last blank marks =>
      rw [splitMark_concat, if_pos marks, trimEnd_append_blanks blank]
      exact trimEnd_eq_self last
  · rintro rfl
    rcases List.eq_nil_or_concat token with rfl | ⟨front, last, rfl⟩
    · exact .bare (by simp)
    · rw [List.concat_eq_append, splitMark_concat]
      by_cases marks : isMark last = true
      · rw [if_pos marks]
        have left : Stem (trimEnd front ++ trailingBlanks front ++ [last]) (trimEnd front) :=
          .marked (fun _ => isBlank_last_trimEnd) (fun _ => isBlank_of_mem_trailingBlanks) marks
        rwa [trimEnd_append_trailingBlanks] at left
      · rw [if_neg marks]
        refine .bare ?_
        intro c last
        rw [List.getLast?_concat, Option.some.injEq] at last
        rwa [← last, ← Bool.not_eq_true]

/-- A trimmed token without a stem has at most a mark. -/
theorem lone_of_stem_nil (trimmed : Trimmed token) (left : Stem token []) :
    token = [] ∨ token = ['H'] ∨ token = ['h'] ∨ token = ['\x27'] := by
  generalize none : ([] : List Char) = stem at left
  cases left with
  | bare unmarked => exact Or.inl rfl
  | @marked stem blanks mark last blank marks =>
    subst none
    cases blanks with
    | nil => rcases isMark_iff.mp marks with rfl | rfl | rfl <;> simp
    | cons c blanks =>
      have kept : isBlank c = false := trimmed.first c rfl
      rw [blank c List.mem_cons_self] at kept
      cases kept

theorem ofToken_of_refused (refused : Refused token reason) : ofToken token = .error reason := by
  cases refused with
  | empty lone => rcases lone with rfl | rfl | rfl | rfl <;> rfl
  | @invalidDigits stem left c inside other =>
    have digits : (splitMark token).1 = stem := stem_iff.mp left
    have nonempty : stem ≠ [] := List.ne_nil_of_mem inside
    have wrong : stem.all Char.isDigit = false := List.all_eq_false.mpr ⟨c, inside, by simp [other]⟩
    simp [ofToken, digits, nonempty, wrong]
  | @indexOverflow stem left isDigit large =>
    have digits : (splitMark token).1 = stem := stem_iff.mp left
    have nonempty : stem ≠ [] := by
      rintro rfl
      rw [Decimal.value_nil] at large
      omega
    have all : stem.all Char.isDigit = true := List.all_eq_true.mpr isDigit
    have number := ofNumeral_eq nonempty isDigit (splitMark token).2
    rw [if_neg (Nat.not_lt.mpr large)] at number
    simp [ofToken, digits, nonempty, all, number]

/-- A trimmed token spells a segment or has a fault. -/
theorem spells_or_refused (trimmed : Trimmed token) :
    (∃ s, Spells s token) ∨ ∃ reason, Refused token reason := by
  obtain ⟨stem, hard, split⟩ : ∃ stem hard, splitMark token = (stem, hard) := ⟨_, _, rfl⟩
  have left : Stem token stem := stem_iff.mpr (by rw [split])
  by_cases empty : stem = []
  · subst empty
    exact Or.inr ⟨_, .empty (lone_of_stem_nil trimmed left)⟩
  by_cases isDigit : ∀ c ∈ stem, c.isDigit = true
  · by_cases small : Decimal.value stem < 0x80000000
    · obtain ⟨index, mark⟩ := (join_eq_iff small).mp (rfl : join _ hard = _)
      exact Or.inl ⟨_, ofToken_eq_ok_iff.mp
        ((ofToken_eq_ok_of_splitMark split).mpr ⟨⟨empty, isDigit, small⟩, index, mark⟩)⟩
    · exact Or.inr ⟨_, .indexOverflow left isDigit (Nat.le_of_not_lt small)⟩
  · obtain ⟨c, inside, other⟩ : ∃ c ∈ stem, c.isDigit = false := by simpa using isDigit
    exact Or.inr ⟨_, .invalidDigits left inside other⟩

theorem ofToken_eq_error_iff (trimmed : Trimmed token) :
    ofToken token = .error reason ↔ Refused token reason := by
  constructor
  · intro bad
    rcases spells_or_refused trimmed with ⟨s, spells⟩ | ⟨other, refused⟩
    · rw [ofToken_eq_ok_iff.mpr spells] at bad
      cases bad
    · rw [ofToken_of_refused refused, Except.error.injEq] at bad
      exact bad ▸ refused
  · exact ofToken_of_refused

theorem value_parse_eq_error_iff {text : String} {fault : Fault} :
    (parse text).value = .error fault ↔
      ∃ reason, Refused (trim text.toList) reason ∧
        fault = .malformed (String.ofList (trim text.toList))
          (byteCount (leadingBlanks text.toList)) reason := by
  simp only [value_parse, ← ofToken_eq_error_iff (trimmed_trim text.toList)]
  cases ofToken (trim text.toList) with
  | ok c =>
    apply iff_of_false nofun
    rintro ⟨reason, ⟨⟩, -⟩
  | error reason =>
    constructor
    · rintro ⟨⟩
      exact ⟨reason, rfl, rfl⟩
    · rintro ⟨other, ⟨⟩, rfl⟩
      rfl

/-- Reading a segment accepts exactly the spellings, and puts every other token into one of three
classes; the fault has the trimmed token and the bytes of the blanks before it. -/
theorem parse_classifies (s : String) :
    (∀ c, (parse s).value = .ok c ↔ Spells c (trim s.toList)) ∧
    ∀ fault, (parse s).value = .error fault ↔
      ∃ reason, Refused (trim s.toList) reason ∧
        fault = .malformed (String.ofList (trim s.toList)) (byteCount (leadingBlanks s.toList))
          reason := by
  constructor
  · intro c
    exact value_parse_eq_ok_iff
  · intro fault
    exact value_parse_eq_error_iff

example : (parse "\u3000 12 3h ").value = .error (.malformed "12 3h" 4 .invalidDigits) := by rfl
example : (parse "00099999999999999999999'").value =
    .error (.malformed "00099999999999999999999'" 0 .indexOverflow) := by rfl

end KeyPath.Segment
