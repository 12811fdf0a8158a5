import KeyPath.Text.Decimal

/-!
# JSON tokens

A JSON text is cut into tokens: brackets, commas, colons, words, numbers and strings, with spaces
between them.  A number is kept as it is spelled.  A string is kept as the 16-bit code units that
its characters and escapes stand for, since an escape can name half of a surrogate pair; whether
the units pair up is asked by `isPaired`.

Cutting needs no look at the grammar of values: no value may follow another one directly, so the
longest run of number characters is a number or the text is no JSON.
-/

namespace KeyPath.Json

inductive Token where
  | openBracket
  | closeBracket
  | openBrace
  | closeBrace
  | comma
  | colon
  | null
  | bool (b : Bool)
  | number (spelling : List Char)
  | string (units : List UInt16)
deriving DecidableEq, Repr

/-- The spaces of JSON, which are fewer than the blanks of Unicode. -/
def isSpace (c : Char) : Bool := c = ' ' || c = '\t' || c = '\n' || c = '\r'

/-- The one or two code units of a character. -/
def unitsOf (c : Char) : List UInt16 :=
  let n := c.toNat
  if n < 0x10000 then [UInt16.ofNat n]
  else
    [UInt16.ofNat (0xD800 + (n - 0x10000) / 0x400), UInt16.ofNat (0xDC00 + (n - 0x10000) % 0x400)]

def units (s : String) : List UInt16 := s.toList.flatMap unitsOf

/-- Whether a unit is the first half of a pair. -/
def isLead (u : UInt16) : Bool := 0xD800 ≤ u && u ≤ 0xDBFF

/-- Whether a unit is the second half of a pair. -/
def isTrail (u : UInt16) : Bool := 0xDC00 ≤ u && u ≤ 0xDFFF

/-- Whether the units are those of a text: each half of a pair has the other one next to it. -/
def isPaired : List UInt16 → Bool
  | [] => true
  | u :: rest =>
    if isTrail u then false
    else if isLead u then
      match rest with
      | v :: rest => isTrail v && isPaired rest
      | [] => false
    else isPaired rest

def hexValue? (c : Char) : Option Nat :=
  if c.isDigit then some (c.toNat - 48)
  else if 'a' ≤ c ∧ c ≤ 'f' then some (c.toNat - 87)
  else if 'A' ≤ c ∧ c ≤ 'F' then some (c.toNat - 55)
  else none

/-- The unit of four hexadecimal digits. -/
def hexUnit? (a b c d : Char) : Option UInt16 := do
  let a ← hexValue? a
  let b ← hexValue? b
  let c ← hexValue? c
  let d ← hexValue? d
  return UInt16.ofNat (((a * 16 + b) * 16 + c) * 16 + d)

/-- The unit that a character stands for after a backslash. -/
def escapeUnit? (c : Char) : Option UInt16 :=
  match c with
  | '"' => some 0x22
  | '\\' => some 0x5C
  | '/' => some 0x2F
  | 'b' => some 0x8
  | 'f' => some 0xC
  | 'n' => some 0xA
  | 'r' => some 0xD
  | 't' => some 0x9
  | _ => none

/-- Reads a string up to its closing quote; `read` has the units before, nearest first.  Control
characters have to be escaped. -/
def readString? (read : List UInt16) : List Char → Option (List UInt16 × List Char)
  | [] => none
  | '"' :: rest => some (read.reverse, rest)
  | '\\' :: 'u' :: a :: b :: c :: d :: rest =>
    match hexUnit? a b c d with
    | some u => readString? (u :: read) rest
    | none => none
  | '\\' :: e :: rest =>
    match escapeUnit? e with
    | some u => readString? (u :: read) rest
    | none => none
  | c :: rest =>
    if c = '\\' ∨ c.toNat < 0x20 then none else readString? ((unitsOf c).reverse ++ read) rest

/-- A run of digits, at least one. -/
def isDigits (cs : List Char) : Bool := !cs.isEmpty && cs.all Char.isDigit

/-- A natural number without needless zeros in front. -/
def isNatural (cs : List Char) : Bool := isDigits cs && (cs.head? != some '0' || cs.length == 1)

/-- Nothing, or an exponent with its mark and an optional sign. -/
def isExponent : List Char → Bool
  | [] => true
  | e :: '+' :: rest => (e = 'e' || e = 'E') && isDigits rest
  | e :: '-' :: rest => (e = 'e' || e = 'E') && isDigits rest
  | e :: rest => (e = 'e' || e = 'E') && isDigits rest

/-- Nothing, a fraction, an exponent, or a fraction and an exponent. -/
def isTail : List Char → Bool
  | '.' :: rest =>
    isDigits (rest.takeWhile Char.isDigit) && isExponent (rest.dropWhile Char.isDigit)
  | rest => isExponent rest

def isUnsigned (cs : List Char) : Bool :=
  isNatural (cs.takeWhile Char.isDigit) && isTail (cs.dropWhile Char.isDigit)

def isNumber : List Char → Bool
  | '-' :: rest => isUnsigned rest
  | cs => isUnsigned cs

/-- The characters that numbers are spelled with. -/
def isNumberChar (c : Char) : Bool :=
  c.isDigit || c = '-' || c = '+' || c = '.' || c = 'e' || c = 'E'

/-- The token of a character that is one by itself. -/
def markToken? (c : Char) : Option Token :=
  match c with
  | '[' => some .openBracket
  | ']' => some .closeBracket
  | '{' => some .openBrace
  | '}' => some .closeBrace
  | ',' => some .comma
  | ':' => some .colon
  | _ => none

def wordToken? (word : List Char) : Option Token :=
  if word = "null".toList then some .null
  else if word = "true".toList then some (.bool true)
  else if word = "false".toList then some (.bool false)
  else none

def numberToken? (spelling : List Char) : Option Token :=
  if isNumber spelling then some (.number spelling) else none

/-- The token that a text without spaces in front begins with, and the text after it. -/
def readToken? : List Char → Option (Token × List Char)
  | [] => none
  | c :: rest =>
    match markToken? c with
    | some token => some (token, rest)
    | none =>
      if c = '"' then (readString? [] rest).map fun read => (.string read.1, read.2)
      else if c.isAlpha then
        (wordToken? (c :: rest.takeWhile Char.isAlpha)).map (·, rest.dropWhile Char.isAlpha)
      else
        (numberToken? (c :: rest.takeWhile isNumberChar)).map (·, rest.dropWhile isNumberChar)

theorem length_dropWhile_le (p : Char → Bool) (cs : List Char) :
    (cs.dropWhile p).length ≤ cs.length := by
  have := congrArg List.length (List.takeWhile_append_dropWhile (p := p) (l := cs))
  rw [List.length_append] at this
  omega

theorem length_readString? {read us : List UInt16} {cs rest : List Char}
    (h : readString? read cs = some (us, rest)) : rest.length < cs.length := by
  fun_induction readString? read cs with
  | case1 => simp at h
  | case2 => simp_all
  | case3 _ _ _ _ _ _ _ _ ih => have := ih h; simp; omega
  | case4 => simp at h
  | case5 _ _ _ _ _ _ ih => have := ih h; simp; omega
  | case6 => simp at h
  | case7 => simp at h
  | case8 _ _ _ _ _ _ _ ih => have := ih h; simp; omega

/-- Every token takes at least one character. -/
theorem length_readToken? {cs : List Char} {out : Token × List Char}
    (h : readToken? cs = some out) : out.2.length < cs.length := by
  cases cs with
  | nil => simp [readToken?] at h
  | cons c rest =>
    rw [readToken?] at h
    split at h
    · cases h
      simp
    · split at h
      · obtain ⟨read, eq, rfl⟩ := Option.map_eq_some_iff.mp h
        have := length_readString? eq
        simp
        omega
      · split at h
        · obtain ⟨token, _, rfl⟩ := Option.map_eq_some_iff.mp h
          exact Nat.lt_succ_of_le (length_dropWhile_le _ _)
        · obtain ⟨token, _, rfl⟩ := Option.map_eq_some_iff.mp h
          exact Nat.lt_succ_of_le (length_dropWhile_le _ _)

/-- The tokens of a text, after those in `read`, which has the nearest first. -/
def tokensOnto? (read : List Token) (cs : List Char) : Option (List Token) :=
  match cs with
  | [] => some read.reverse
  | c :: rest =>
    if isSpace c then tokensOnto? read rest
    else
      match _taken : readToken? (c :: rest) with
      | some out => tokensOnto? (out.1 :: read) out.2
      | none => none
termination_by cs.length
decreasing_by
  · simp
  · exact length_readToken? (by assumption)

def tokens? (cs : List Char) : Option (List Token) := tokensOnto? [] cs

def hexDigit (n : Nat) : Char := if n < 10 then Char.ofNat (48 + n) else Char.ofNat (87 + n)

/-- A unit inside a string: itself if it is a visible ASCII character or a space and no quote or
backslash, else an escape with four digits. -/
def unitText (u : UInt16) : List Char :=
  let n := u.toNat
  if 0x20 ≤ n ∧ n < 0x7F ∧ n ≠ 0x22 ∧ n ≠ 0x5C then [Char.ofNat n]
  else
    ['\\', 'u', hexDigit (n / 4096), hexDigit (n / 256 % 16), hexDigit (n / 16 % 16),
      hexDigit (n % 16)]

def Token.text : Token → List Char
  | .openBracket => ['[']
  | .closeBracket => [']']
  | .openBrace => ['{']
  | .closeBrace => ['}']
  | .comma => [',']
  | .colon => [':']
  | .null => ['n', 'u', 'l', 'l']
  | .bool true => ['t', 'r', 'u', 'e']
  | .bool false => ['f', 'a', 'l', 's', 'e']
  | .number spelling => spelling
  | .string units => '"' :: units.flatMap unitText ++ ['"']

end KeyPath.Json
