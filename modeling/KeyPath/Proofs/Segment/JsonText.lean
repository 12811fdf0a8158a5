import KeyPath.Json.Forms
import KeyPath.Proofs.Json.Grammar
import KeyPath.Proofs.Segment.Canonical
import Mathlib.Data.List.DropRight

/-!
# JSON texts of segments

A segment is written as the numeral of its word.  It is read from that numeral, with the four spaces
of JSON around it, and from nothing else: a number has only one numeral without a zero in front, so
no other number that is spelled with digits alone has the same value.  A text is refused for its
middle between the spaces: it is empty, it has a character that is no digit, a zero stands in front
of other digits, or the number has no 32 bits.
-/

namespace KeyPath

namespace Json

variable {cs text : List Char}

/-- The integer part of a number is the numeral of its value. -/
theorem Whole.digits_value (whole : Whole cs) : Decimal.digits (Decimal.value cs) = cs := by
  have lead : cs = ['0'] ∨ cs.head? ≠ some '0' := (em _).imp_left whole.alone
  exact Decimal.digits_value_of_short whole.ne_nil whole.isDigit lead

theorem whole_digits (n : Nat) : Whole (Decimal.digits n) :=
  isNatural_iff.mp (Segment.isNatural_digits n)

theorem not_isSpace_of_isDigit {c : Char} (digit : c.isDigit = true) : isSpace c = false := by
  rw [Bool.eq_false_iff]
  intro space
  have other := isWordChar_of_isSpace space
  rw [isWordChar, isNumberChar, digit] at other
  simp at other

theorem Digits.whole_or_padded (digits : Digits cs) :
    Whole cs ∨ ∃ rest, Digits rest ∧ cs = '0' :: rest := by
  obtain ⟨c, rest, rfl⟩ := List.exists_cons_of_ne_nil digits.ne_nil
  by_cases zeros : c = '0' ∧ rest ≠ []
  · obtain ⟨rfl, more⟩ := zeros
    exact Or.inr ⟨rest, ⟨more, (List.forall_mem_cons.mp digits.isDigit).2⟩, rfl⟩
  · refine Or.inl ⟨digits, fun lead => ?_⟩
    obtain rfl : c = '0' := Option.some.inj lead
    rw [not_and, not_not] at zeros
    rw [zeros rfl]

/-- The text is the other one with spaces alone around it. -/
def InSpaces (cs text : List Char) : Prop :=
  ∃ before after, text = before ++ (cs ++ after) ∧
    (∀ c ∈ before, isSpace c = true) ∧ ∀ c ∈ after, isSpace c = true

/-- The text without the spaces around it. -/
def strip (text : List Char) : List Char := (text.dropWhile isSpace).rdropWhile isSpace

theorem inSpaces_strip (text : List Char) : InSpaces (strip text) text := by
  refine ⟨text.takeWhile isSpace, (text.dropWhile isSpace).rtakeWhile isSpace, ?_, ?_, ?_⟩
  · rw [strip, List.rdropWhile_append_rtakeWhile, List.takeWhile_append_dropWhile]
  · intro c member
    exact List.mem_takeWhile_imp member
  · intro c member
    exact List.mem_rtakeWhile_imp member

/-- Only the spaces around a text without spaces are stripped. -/
theorem strip_eq_of_inSpaces (around : InSpaces cs text) (nonempty : cs ≠ [])
    (solid : ∀ c ∈ cs, isSpace c = false) : strip text = cs := by
  obtain ⟨before, after, rfl, blankBefore, blankAfter⟩ := around
  have first : Stops isSpace (cs ++ after) := by
    intro c eq
    rw [List.head?_append_of_ne_nil cs nonempty] at eq
    exact solid c (List.mem_of_head? eq)
  have last : Stops isSpace cs.reverse := by
    intro c eq
    exact solid c (List.mem_reverse.mp (List.mem_of_head? eq))
  have blank : ∀ c ∈ after.reverse, isSpace c = true := by
    intro c member
    exact blankAfter c (List.mem_reverse.mp member)
  rw [strip, dropWhile_append_of_stops blankBefore first, List.rdropWhile, List.reverse_append,
    dropWhile_append_of_stops blank last, List.reverse_reverse]

/-- A text has a number as its only token when it is the spelling with spaces around it. -/
theorem spaced_number_iff : Spaced [.number cs] text ↔ Number cs ∧ InSpaces cs text := by
  constructor
  · intro spaced
    cases spaced with
    | cons blank spells later =>
      cases spells with
      | number number =>
        cases later with
        | nil blankAfter => exact ⟨number, _, _, rfl, blank, blankAfter⟩
  · rintro ⟨number, before, after, rfl, blankBefore, blankAfter⟩
    exact .cons blankBefore (.number number) (.nil blankAfter)

end Json

namespace Segment

open Json

/-- The value is the word of the segment, written with digits alone. -/
def IsNumber (s : Segment) (v : Value) : Prop :=
  ∃ digits, v = .number digits ∧ Whole digits ∧ Decimal.value digits = s.word.toNat

/-- The value is a number of 32 bits, written with digits alone. -/
def Fits (v : Value) : Prop :=
  ∃ digits, v = .number digits ∧ Whole digits ∧ Decimal.value digits < 0x100000000

theorem ofJson?_eq_some_iff {s : Segment} {v : Value} : ofJson? v = some s ↔ s.IsNumber v := by
  constructor
  · intro read
    cases v with
    | number digits =>
      rw [ofJson?] at read
      split at read
      · next fits =>
        rw [Bool.and_eq_true, isNatural_iff, decide_eq_true_eq] at fits
        cases read
        exact ⟨digits, rfl, fits.1, (UInt32.toNat_ofNat_of_lt' fits.2).symm⟩
      · cases read
    | _ => cases read
  · rintro ⟨digits, rfl, whole, value⟩
    have small : s.word.toNat < 0x100000000 := s.word.toNat_lt
    simp [ofJson?, isNatural_iff.mpr whole, value, small]

theorem fits_iff {v : Value} : Fits v ↔ ∃ s : Segment, s.IsNumber v := by
  constructor
  · rintro ⟨digits, rfl, whole, small⟩
    exact ⟨⟨UInt32.ofNat (Decimal.value digits)⟩, digits, rfl, whole,
      (UInt32.toNat_ofNat_of_lt' small).symm⟩
  · rintro ⟨s, digits, rfl, whole, value⟩
    exact ⟨digits, rfl, whole, value ▸ s.word.toNat_lt⟩

/-- No other value has the same number. -/
theorem isNumber_iff {s : Segment} {v : Value} : s.IsNumber v ↔ v = s.toJson := by
  constructor
  · rintro ⟨digits, rfl, whole, value⟩
    rw [toJson, ← value, whole.digits_value]
  · rintro rfl
    exact ⟨_, rfl, whole_digits _, Decimal.value_digits _⟩

theorem toList_toJsonText (s : Segment) : s.toJsonText.toList = Decimal.digits s.word.toNat := by
  rw [toJsonText, Value.text, String.toList_ofList]
  exact List.append_nil _

variable {c : Segment} {cs : List Char} {t : String}

theorem ofJsonText?_eq_some_iff :
    ofJsonText? t = some c ↔ InSpaces (Decimal.digits c.word.toNat) t.toList := by
  have number : Number (Decimal.digits c.word.toNat) := .of_whole (whole_digits _)
  calc ofJsonText? t = some c
      ↔ ∃ v, Value.read? t = some v ∧ ofJson? v = some c := Option.bind_eq_some_iff
    _ ↔ Value.read? t = some c.toJson := by simp [ofJson?_eq_some_iff, isNumber_iff]
    _ ↔ Spaced [.number (Decimal.digits c.word.toNat)] t.toList := Value.read?_eq_some_iff
    _ ↔ InSpaces (Decimal.digits c.word.toNat) t.toList := by
      rw [spaced_number_iff, and_iff_right number]

theorem ofJsonText?_eq_some_iff_strip :
    ofJsonText? t = some c ↔ strip t.toList = Decimal.digits c.word.toNat := by
  have whole := whole_digits c.word.toNat
  rw [ofJsonText?_eq_some_iff]
  constructor
  · intro around
    exact strip_eq_of_inSpaces around whole.ne_nil fun d member =>
      not_isSpace_of_isDigit (whole.isDigit d member)
  · intro eq
    rw [← eq]
    exact inSpaces_strip t.toList

/-- Why a text without spaces around it is not the numeral of a word. -/
inductive NoWord : List Char → Prop where
  | empty : NoWord []
  /-- The character may be that of a sign, a fraction or an exponent, a blank that is no space of
  JSON, or one of another token. -/
  | foreign {d : Char} {cs : List Char} (member : d ∈ cs) (other : d.isDigit = false) : NoWord cs
  | padded {cs : List Char} (digits : Digits cs) : NoWord ('0' :: cs)
  | large {cs : List Char} (digits : Digits cs) (large : 0x100000000 ≤ Decimal.value cs) :
      NoWord cs

theorem NoWord.ne_digits (noWord : NoWord cs) (c : Segment) :
    cs ≠ Decimal.digits c.word.toNat := by
  rintro rfl
  have whole := whole_digits c.word.toNat
  generalize eq : Decimal.digits c.word.toNat = cs at noWord whole
  cases noWord with
  | empty => exact whole.ne_nil rfl
  | foreign member other =>
    rw [whole.isDigit _ member] at other
    cases other
  | padded digits => exact digits.ne_nil (List.cons.inj (whole.alone rfl)).2
  | large digits large =>
    have small : c.word.toNat < 0x100000000 := c.word.toNat_lt
    rw [← eq, Decimal.value_digits] at large
    omega

theorem noWord_or_exists_digits (cs : List Char) :
    NoWord cs ∨ ∃ c : Segment, cs = Decimal.digits c.word.toNat := by
  by_cases all : ∀ d ∈ cs, d.isDigit = true
  · by_cases empty : cs = []
    · subst empty
      exact Or.inl .empty
    · have digits : Digits cs := ⟨empty, all⟩
      rcases digits.whole_or_padded with whole | ⟨rest, more, rfl⟩
      · by_cases small : Decimal.value cs < 0x100000000
        · obtain ⟨c, number⟩ := fits_iff.mp ⟨cs, rfl, whole, small⟩
          exact Or.inr ⟨c, Value.number.inj (isNumber_iff.mp number)⟩
        · exact Or.inl (.large digits (not_lt.mp small))
      · exact Or.inl (.padded more)
  · push Not at all
    obtain ⟨d, member, other⟩ := all
    exact Or.inl (.foreign member (Bool.eq_false_iff.mpr other))

theorem ofJsonText?_eq_none_iff : ofJsonText? t = none ↔ NoWord (strip t.toList) := by
  rw [Option.eq_none_iff_forall_ne_some]
  constructor
  · intro unread
    refine (noWord_or_exists_digits _).resolve_right ?_
    rintro ⟨c, eq⟩
    exact unread c (ofJsonText?_eq_some_iff_strip.mpr eq)
  · intro noWord c read
    exact noWord.ne_digits c (ofJsonText?_eq_some_iff_strip.mp read)

/-- A segment is written as the digits of its word, without needless zeros.  It is read from what is
written for it with spaces around, and from no other text; the texts that no segment is read from
have another middle between their spaces than the numeral of a word. -/
theorem json_text_exact :
    (∀ c : Segment, Whole c.toJsonText.toList ∧
      Decimal.value c.toJsonText.toList = c.word.toNat) ∧
    ∀ t : String,
      (∀ c, ofJsonText? t = some c ↔ InSpaces c.toJsonText.toList t.toList) ∧
      (ofJsonText? t = none ↔ NoWord (strip t.toList)) := by
  simp only [toList_toJsonText]
  constructor
  · intro c
    exact ⟨whole_digits _, Decimal.value_digits _⟩
  · intro t
    exact ⟨fun c => ofJsonText?_eq_some_iff, ofJsonText?_eq_none_iff⟩

example : ofJsonText? "\n 4294967295\t" = some ⟨0xFFFFFFFF⟩ := by decide +kernel
example : ofJsonText? "-0" = none := by decide +kernel

end Segment

end KeyPath
