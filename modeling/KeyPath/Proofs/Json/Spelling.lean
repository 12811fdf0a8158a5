import KeyPath.Json.Token

/-!
# Spellings of JSON tokens

Which characters spell a token, said without the reader: a number is a sign, an integer part, a
fraction and an exponent, most of which may be missing; a string is a row of plain characters and
escapes between quotes.  Reading takes a spelling from the front of a text, and gives the token
that it spells.  A word or a number goes as far as its characters do, so it is only read whole if
the text goes on with another character.
-/

namespace KeyPath.Json

/-- The text is empty or begins with a character that is not of the kind. -/
def Stops (kind : Char → Bool) (rest : List Char) : Prop :=
  ∀ c, rest.head? = some c → kind c = false

section
variable {kind : Char → Bool} {front rest : List Char}

theorem stops_nil : Stops kind [] := by
  intro c first
  cases first

theorem stops_cons {c : Char} (other : kind c = false) : Stops kind (c :: rest) := by
  intro d first
  rwa [← Option.some.inj first]

theorem takeWhile_append_of_stops (all : ∀ c ∈ front, kind c = true) (stops : Stops kind rest) :
    (front ++ rest).takeWhile kind = front := by
  rw [List.takeWhile_append_of_pos all]
  cases rest with
  | nil => simp
  | cons c rest =>
    have other : ¬ kind c = true := by simp [stops c rfl]
    rw [List.takeWhile_cons_of_neg other, List.append_nil]

theorem dropWhile_append_of_stops (all : ∀ c ∈ front, kind c = true) (stops : Stops kind rest) :
    (front ++ rest).dropWhile kind = rest := by
  rw [List.dropWhile_append_of_pos all]
  cases rest with
  | nil => rfl
  | cons c rest =>
    have other : ¬ kind c = true := by simp [stops c rfl]
    exact List.dropWhile_cons_of_neg other

end

/-- One or more decimal digits. -/
structure Digits (cs : List Char) : Prop where
  ne_nil : cs ≠ []
  isDigit : ∀ c ∈ cs, c.isDigit = true

/-- The integer part of a number: no zero stands in front of other digits. -/
structure Whole (cs : List Char) : Prop extends Digits cs where
  alone : cs.head? = some '0' → cs = ['0']

inductive Fraction : List Char → Prop where
  | none : Fraction []
  | some {cs : List Char} (digits : Digits cs) : Fraction ('.' :: cs)

inductive Exponent : List Char → Prop where
  | none : Exponent []
  | some {mark : Char} {sign cs : List Char} (isMark : mark = 'e' ∨ mark = 'E')
      (isSign : sign = [] ∨ sign = ['+'] ∨ sign = ['-']) (digits : Digits cs) :
      Exponent (mark :: (sign ++ cs))

inductive Number : List Char → Prop where
  | of {sign whole fraction exponent : List Char} (isSign : sign = [] ∨ sign = ['-'])
      (isWhole : Whole whole) (isFraction : Fraction fraction) (isExponent : Exponent exponent) :
      Number (sign ++ (whole ++ (fraction ++ exponent)))

theorem isDigits_iff {cs : List Char} : isDigits cs = true ↔ Digits cs := by
  rw [isDigits, Bool.and_eq_true, List.all_eq_true]
  constructor
  · rintro ⟨nonempty, all⟩
    exact ⟨by simpa using nonempty, all⟩
  · rintro ⟨nonempty, all⟩
    exact ⟨by simpa using nonempty, all⟩

theorem isNatural_iff {cs : List Char} : isNatural cs = true ↔ Whole cs := by
  rw [isNatural, Bool.and_eq_true, isDigits_iff, Bool.or_eq_true]
  constructor
  · rintro ⟨digits, front⟩
    refine ⟨digits, fun zero => ?_⟩
    have single : cs.length = 1 := by simpa [zero] using front
    obtain ⟨c, rfl⟩ := List.length_eq_one_iff.mp single
    exact congrArg (fun d => [d]) (Option.some.inj zero)
  · rintro ⟨digits, alone⟩
    refine ⟨digits, ?_⟩
    by_cases zero : cs.head? = some '0'
    · simp [alone zero]
    · simp [zero]

theorem not_isDigit_of_isMark {c : Char} (mark : c = 'e' ∨ c = 'E') : c.isDigit = false := by
  rcases mark with rfl | rfl <;> rfl

theorem Digits.head_isDigit {cs : List Char} (digits : Digits cs) :
    ∃ c rest, cs = c :: rest ∧ c.isDigit = true := by
  obtain ⟨c, rest, rfl⟩ := List.exists_cons_of_ne_nil digits.ne_nil
  exact ⟨c, rest, rfl, digits.isDigit c List.mem_cons_self⟩

theorem isExponent_iff {cs : List Char} : isExponent cs = true ↔ Exponent cs := by
  constructor
  · intro exponent
    unfold isExponent at exponent
    split at exponent
    · exact .none
    all_goals
      rw [Bool.and_eq_true, Bool.or_eq_true, decide_eq_true_eq, decide_eq_true_eq,
        isDigits_iff] at exponent
    · exact .some exponent.1 (Or.inr (Or.inl rfl)) exponent.2
    · exact .some exponent.1 (Or.inr (Or.inr rfl)) exponent.2
    · exact .some exponent.1 (Or.inl rfl) exponent.2
  · intro exponent
    cases exponent with
    | none => rfl
    | @some mark sign cs isMark isSign digits =>
      have marked : (decide (mark = 'e') || decide (mark = 'E')) = true := by simpa using isMark
      rcases isSign with rfl | rfl | rfl
      · obtain ⟨c, rest, rfl, digit⟩ := digits.head_isDigit
        have plus : c ≠ '+' := by rintro rfl; exact absurd digit (by decide)
        have minus : c ≠ '-' := by rintro rfl; exact absurd digit (by decide)
        simp [isExponent, plus, minus, isDigits_iff.mpr digits, isMark]
      · simp [isExponent, isDigits_iff.mpr digits, isMark]
      · simp [isExponent, isDigits_iff.mpr digits, isMark]

theorem Exponent.stops_isDigit {cs : List Char} (exponent : Exponent cs) :
    Stops Char.isDigit cs := by
  cases exponent with
  | none => exact stops_nil
  | some isMark => exact stops_cons (not_isDigit_of_isMark isMark)

theorem isTail_iff {cs : List Char} :
    isTail cs = true ↔
      ∃ fraction exponent, cs = fraction ++ exponent ∧ Fraction fraction ∧ Exponent exponent := by
  constructor
  · intro tail
    unfold isTail at tail
    split at tail
    · next rest =>
      rw [Bool.and_eq_true, isDigits_iff, isExponent_iff] at tail
      refine ⟨'.' :: rest.takeWhile Char.isDigit, _, ?_, .some tail.1, tail.2⟩
      rw [List.cons_append, List.takeWhile_append_dropWhile]
    · exact ⟨[], cs, rfl, .none, isExponent_iff.mp tail⟩
  · rintro ⟨fraction, exponent, rfl, isFraction, isExponent⟩
    cases isFraction with
    | some digits =>
      rw [List.cons_append, isTail, takeWhile_append_of_stops digits.isDigit
        isExponent.stops_isDigit, dropWhile_append_of_stops digits.isDigit
        isExponent.stops_isDigit, isDigits_iff.mpr digits, isExponent_iff.mpr isExponent]
      rfl
    | none =>
      have point : ∀ rest, exponent ≠ '.' :: rest := by
        rintro rest rfl
        cases isExponent with
        | some isMark => exact absurd isMark (by decide)
      unfold isTail
      split
      · next rest eq => exact absurd eq (point rest)
      · exact isExponent_iff.mpr isExponent

theorem Fraction.stops_isDigit {fraction exponent : List Char} (isFraction : Fraction fraction)
    (isExponent : Exponent exponent) : Stops Char.isDigit (fraction ++ exponent) := by
  cases isFraction with
  | none => exact isExponent.stops_isDigit
  | some => exact stops_cons (by decide)

theorem isUnsigned_iff {cs : List Char} :
    isUnsigned cs = true ↔ ∃ whole fraction exponent, cs = whole ++ (fraction ++ exponent) ∧
      Whole whole ∧ Fraction fraction ∧ Exponent exponent := by
  rw [isUnsigned, Bool.and_eq_true, isNatural_iff, isTail_iff]
  constructor
  · rintro ⟨isWhole, fraction, exponent, eq, isFraction, isExponent⟩
    refine ⟨_, fraction, exponent, ?_, isWhole, isFraction, isExponent⟩
    rw [← eq, List.takeWhile_append_dropWhile]
  · rintro ⟨whole, fraction, exponent, rfl, isWhole, isFraction, isExponent⟩
    have stops := isFraction.stops_isDigit isExponent
    rw [takeWhile_append_of_stops isWhole.isDigit stops,
      dropWhile_append_of_stops isWhole.isDigit stops]
    exact ⟨isWhole, fraction, exponent, rfl, isFraction, isExponent⟩

/-- The reader's numbers are the numbers of the grammar. -/
theorem isNumber_iff {cs : List Char} : isNumber cs = true ↔ Number cs := by
  constructor
  · intro number
    unfold isNumber at number
    split at number
    · obtain ⟨whole, fraction, exponent, rfl, isWhole, isFraction, isExponent⟩ :=
        isUnsigned_iff.mp number
      exact .of (Or.inr rfl) isWhole isFraction isExponent
    · obtain ⟨whole, fraction, exponent, rfl, isWhole, isFraction, isExponent⟩ :=
        isUnsigned_iff.mp number
      exact .of (Or.inl rfl) isWhole isFraction isExponent
  · intro number
    obtain ⟨isSign, isWhole, isFraction, isExponent⟩ := number
    have unsigned := isUnsigned_iff.mpr ⟨_, _, _, rfl, isWhole, isFraction, isExponent⟩
    rcases isSign with rfl | rfl
    · obtain ⟨c, rest, rfl, digit⟩ := isWhole.head_isDigit
      have minus : c ≠ '-' := by rintro rfl; exact absurd digit (by decide)
      unfold isNumber
      split
      · next eq => exact absurd (List.cons.inj eq).1 minus
      · exact unsigned
    · exact unsigned

/-- The characters between two quotes spell the code units. -/
inductive Quoted : List UInt16 → List Char → Prop where
  | nil : Quoted [] []
  | plain {c : Char} {units : List UInt16} {cs : List Char} (noQuote : c ≠ '"')
      (noEscape : c ≠ '\\') (visible : 0x20 ≤ c.toNat) (later : Quoted units cs) :
      Quoted (unitsOf c ++ units) (c :: cs)
  | escape {e : Char} {u : UInt16} {units : List UInt16} {cs : List Char}
      (unit : escapeUnit? e = some u) (later : Quoted units cs) :
      Quoted (u :: units) ('\\' :: e :: cs)
  | hex {a b c d : Char} {u : UInt16} {units : List UInt16} {cs : List Char}
      (unit : hexUnit? a b c d = some u) (later : Quoted units cs) :
      Quoted (u :: units) ('\\' :: 'u' :: a :: b :: c :: d :: cs)

theorem readString?_quoted (read : List UInt16) {units : List UInt16} {body : List Char}
    (quoted : Quoted units body) (rest : List Char) :
    readString? read (body ++ '"' :: rest) = some (read.reverse ++ units, rest) := by
  induction quoted generalizing read with
  | nil => simp [readString?]
  | @plain c units cs noQuote noEscape visible later ih =>
    have own : ¬ (c = '\\' ∨ c.toNat < 0x20) := by
      rintro (same | control)
      · exact noEscape same
      · omega
    rw [List.cons_append, readString?, if_neg own, ih]
    · simp
    · exact noQuote
    · exact fun _ _ _ _ _ same => absurd same noEscape
    · exact fun _ _ same => absurd same noEscape
  | @escape e u units cs unit later ih =>
    have short : e ≠ 'u' := by
      rintro rfl
      simp [escapeUnit?] at unit
    rw [List.cons_append, List.cons_append, readString?, unit]
    · simp [ih]
    · exact fun _ _ _ _ _ same => absurd same short
  | hex unit later ih =>
    simp only [List.cons_append, readString?, unit]
    simp [ih]

theorem exists_of_readString?_eq_some {read all : List UInt16} {cs rest : List Char}
    (done : readString? read cs = some (all, rest)) :
    ∃ units body, all = read.reverse ++ units ∧ cs = body ++ '"' :: rest ∧ Quoted units body := by
  fun_induction readString? read cs with
  | case1 => cases done
  | case2 read later =>
    obtain ⟨rfl, rfl⟩ := Prod.mk.inj (Option.some.inj done)
    exact ⟨[], [], by simp, rfl, .nil⟩
  | case3 read a b c d later u unit ih =>
    obtain ⟨units, body, rfl, rfl, quoted⟩ := ih done
    exact ⟨u :: units, _, by simp, rfl, .hex unit quoted⟩
  | case4 => cases done
  | case5 read e later _ u unit ih =>
    obtain ⟨units, body, rfl, rfl, quoted⟩ := ih done
    exact ⟨u :: units, _, by simp, rfl, .escape unit quoted⟩
  | case6 => cases done
  | case7 => cases done
  | case8 read c later noQuote _ _ own ih =>
    rw [not_or] at own
    obtain ⟨units, body, rfl, rfl, quoted⟩ := ih done
    exact ⟨unitsOf c ++ units, _, by simp, rfl,
      .plain noQuote own.1 (Nat.le_of_not_lt own.2) quoted⟩

namespace Token

/-- The characters spell the token. -/
inductive Spells : Token → List Char → Prop where
  | openBracket : Spells .openBracket ['[']
  | closeBracket : Spells .closeBracket [']']
  | openBrace : Spells .openBrace ['{']
  | closeBrace : Spells .closeBrace ['}']
  | comma : Spells .comma [',']
  | colon : Spells .colon [':']
  | null : Spells .null "null".toList
  | boolTrue : Spells (.bool true) "true".toList
  | boolFalse : Spells (.bool false) "false".toList
  | number {spelling : List Char} (number : Number spelling) : Spells (.number spelling) spelling
  | string {units : List UInt16} {body : List Char} (quoted : Quoted units body) :
      Spells (.string units) ('"' :: (body ++ ['"']))

/-- Whether more characters could make a longer word or number of the token. -/
def isOpen : Token → Bool
  | .null => true
  | .bool _ => true
  | .number _ => true
  | _ => false

end Token

/-- The characters of words and numbers. -/
def isWordChar (c : Char) : Bool := c.isAlpha || isNumberChar c

theorem Stops.mono {kind other : Char → Bool} {rest : List Char} (stops : Stops kind rest)
    (less : ∀ c, other c = true → kind c = true) : Stops other rest := by
  intro c first
  rw [Bool.eq_false_iff]
  intro inside
  have outside := stops c first
  rw [less c inside] at outside
  cases outside

theorem markToken?_of_isWordChar {c : Char} (word : isWordChar c = true) :
    markToken? c = none ∧ c ≠ '"' := by
  constructor
  · unfold markToken?
    split
    case h_7 => rfl
    all_goals exact absurd word (by decide)
  · rintro rfl
    exact absurd word (by decide)

theorem isAlpha_of_isDigit {c : Char} (digit : c.isDigit = true) : c.isAlpha = false := by
  have range := Char.isDigit_iff_toNat.mp digit
  have low : 48 ≤ c.toNat := range.1
  have high : c.toNat ≤ 57 := range.2
  have upper : ¬ 65 ≤ c.toNat := by omega
  have lower : ¬ 97 ≤ c.toNat := by omega
  rw [Bool.eq_false_iff]
  intro alpha
  rcases Bool.or_eq_true_iff.mp alpha with isUpper | isLower
  · have range : 'A'.val ≤ c.val ∧ c.val ≤ 'Z'.val := of_decide_eq_true isUpper
    exact upper (UInt32.le_iff_toNat_le.mp range.1)
  · have range := Bool.and_eq_true_iff.mp isLower
    exact lower (UInt32.le_iff_toNat_le.mp (of_decide_eq_true range.1))

namespace Number

variable {cs : List Char}

theorem isNumberChar (number : Number cs) : ∀ c ∈ cs, isNumberChar c = true := by
  have digit {ds : List Char} (digits : Digits ds) : ∀ c ∈ ds, Json.isNumberChar c = true := by
    intro c member
    simp [Json.isNumberChar, digits.isDigit c member]
  obtain ⟨isSign, isWhole, isFraction, isExponent⟩ := number
  intro c member
  simp only [List.mem_append] at member
  rcases member with sign | whole | fraction | exponent
  · rcases isSign with rfl | rfl
    · cases sign
    · rw [List.mem_singleton.mp sign]
      rfl
  · exact digit isWhole.toDigits c whole
  · cases isFraction with
    | none => cases fraction
    | some digits =>
      rcases List.mem_cons.mp fraction with rfl | later
      · rfl
      · exact digit digits c later
  · cases isExponent with
    | none => cases exponent
    | some isMark isSign digits =>
      rcases List.mem_cons.mp exponent with rfl | later
      · rcases isMark with rfl | rfl <;> rfl
      · rcases List.mem_append.mp later with sign | later
        · rcases isSign with rfl | rfl | rfl
          · cases sign
          · rw [List.mem_singleton.mp sign]
            rfl
          · rw [List.mem_singleton.mp sign]
            rfl
        · exact digit digits c later

theorem of_whole (whole : Whole cs) : Number cs := by
  have number := Number.of (Or.inl rfl) whole .none .none
  rwa [List.append_nil, List.append_nil, List.nil_append] at number

/-- No number begins with a letter. -/
theorem exists_head (number : Number cs) : ∃ c rest, cs = c :: rest ∧ c.isAlpha = false := by
  obtain ⟨isSign, isWhole, -, -⟩ := number
  rcases isSign with rfl | rfl
  · obtain ⟨c, rest, rfl, digit⟩ := isWhole.head_isDigit
    exact ⟨c, _, rfl, isAlpha_of_isDigit digit⟩
  · exact ⟨'-', _, rfl, rfl⟩

end Number

theorem spells_of_markToken? {c : Char} {token : Token} (mark : markToken? c = some token) :
    token.Spells [c] := by
  unfold markToken? at mark
  split at mark
  · cases mark; exact .openBracket
  · cases mark; exact .closeBracket
  · cases mark; exact .openBrace
  · cases mark; exact .closeBrace
  · cases mark; exact .comma
  · cases mark; exact .colon
  · cases mark

theorem spells_of_wordToken? {word : List Char} {token : Token}
    (found : wordToken? word = some token) : token.Spells word := by
  unfold wordToken? at found
  split at found
  · next eq => cases found; rw [eq]; exact .null
  · split at found
    · next eq => cases found; rw [eq]; exact .boolTrue
    · split at found
      · next eq => cases found; rw [eq]; exact .boolFalse
      · cases found

theorem spells_of_numberToken? {spelling : List Char} {token : Token}
    (found : numberToken? spelling = some token) : token.Spells spelling := by
  unfold numberToken? at found
  split at found
  · next number => cases found; exact .number (isNumber_iff.mp number)
  · cases found

/-- What is read as a token spells it. -/
theorem exists_of_readToken?_eq_some {cs rest : List Char} {token : Token}
    (done : readToken? cs = some (token, rest)) :
    ∃ front, cs = front ++ rest ∧ token.Spells front := by
  cases cs with
  | nil => cases done
  | cons c later =>
    rw [readToken?] at done
    split at done
    · next mark =>
      obtain ⟨rfl, rfl⟩ := Prod.mk.inj (Option.some.inj done)
      exact ⟨[c], rfl, spells_of_markToken? mark⟩
    · split at done
      · next quote =>
        subst quote
        obtain ⟨⟨units, after⟩, read, eq⟩ := Option.map_eq_some_iff.mp done
        obtain ⟨rfl, rfl⟩ := Prod.mk.inj eq
        obtain ⟨units, body, rfl, rfl, quoted⟩ := exists_of_readString?_eq_some read
        exact ⟨'"' :: (body ++ ['"']), by simp, .string quoted⟩
      · split at done
        · obtain ⟨found, word, eq⟩ := Option.map_eq_some_iff.mp done
          obtain ⟨rfl, rfl⟩ := Prod.mk.inj eq
          exact ⟨_, by rw [List.cons_append, List.takeWhile_append_dropWhile],
            spells_of_wordToken? word⟩
        · obtain ⟨found, number, eq⟩ := Option.map_eq_some_iff.mp done
          obtain ⟨rfl, rfl⟩ := Prod.mk.inj eq
          exact ⟨_, by rw [List.cons_append, List.takeWhile_append_dropWhile],
            spells_of_numberToken? number⟩

theorem readToken?_word (c : Char) (word : List Char) {rest : List Char}
    (letters : (c :: word).all Char.isAlpha = true) (stops : Stops isWordChar rest) :
    readToken? (c :: (word ++ rest)) = (wordToken? (c :: word)).map (·, rest) := by
  obtain ⟨letter, later⟩ := List.forall_mem_cons.mp (List.all_eq_true.mp letters)
  have stops : Stops Char.isAlpha rest := stops.mono fun d alpha => by simp [isWordChar, alpha]
  obtain ⟨noMark, noQuote⟩ := markToken?_of_isWordChar (c := c) (by simp [isWordChar, letter])
  simp only [readToken?, noMark, if_neg noQuote, letter, if_true,
    takeWhile_append_of_stops later stops, dropWhile_append_of_stops later stops]

theorem readToken?_number {spelling rest : List Char} (number : Number spelling)
    (stops : Stops isWordChar rest) :
    readToken? (spelling ++ rest) = some (.number spelling, rest) := by
  have all := number.isNumberChar
  have stops : Stops isNumberChar rest := stops.mono fun d inside => by simp [isWordChar, inside]
  have token : numberToken? spelling = some (.number spelling) :=
    if_pos (isNumber_iff.mpr number)
  obtain ⟨c, tail, rfl, noLetter⟩ := number.exists_head
  have later : ∀ d ∈ tail, isNumberChar d = true := fun d member =>
    all d (List.mem_cons_of_mem c member)
  obtain ⟨noMark, noQuote⟩ := markToken?_of_isWordChar (c := c)
    (by simp [isWordChar, all c List.mem_cons_self])
  simp only [List.cons_append, readToken?, noMark, if_neg noQuote, noLetter, Bool.false_eq_true,
    if_false, takeWhile_append_of_stops later stops, dropWhile_append_of_stops later stops, token,
    Option.map_some]

/-- A spelling is read as its token, if the text does not go on with more of a word or number. -/
theorem readToken?_append {token : Token} {front rest : List Char} (spells : token.Spells front)
    (stops : token.isOpen = true → Stops isWordChar rest) :
    readToken? (front ++ rest) = some (token, rest) := by
  cases spells with
  | openBracket => rfl
  | closeBracket => rfl
  | openBrace => rfl
  | closeBrace => rfl
  | comma => rfl
  | colon => rfl
  | null => exact readToken?_word 'n' "ull".toList (by decide) (stops rfl)
  | boolTrue => exact readToken?_word 't' "rue".toList (by decide) (stops rfl)
  | boolFalse => exact readToken?_word 'f' "alse".toList (by decide) (stops rfl)
  | number number => exact readToken?_number number (stops rfl)
  | @string units body quoted =>
    have read := readString?_quoted [] quoted rest
    have mark : markToken? '"' = none := rfl
    simp only [List.cons_append, List.append_assoc, List.nil_append, readToken?, mark, if_true,
      read, Option.map_some, List.reverse_nil]

end KeyPath.Json
