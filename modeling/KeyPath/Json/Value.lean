import KeyPath.Json.Token

/-!
# JSON values

A value as a tree, the tokens that it is written with, and the reading of tokens.  Reading keeps
the containers that are still open in a list instead of calling itself, so that values may be
nested to any depth.  Main statement: the tokens of a value are read back as that value.
-/

namespace KeyPath.Json

/-- Members of objects are kept in order, with repeated names. -/
inductive Value where
  | null
  | bool (b : Bool)
  | number (spelling : List Char)
  | string (units : List UInt16)
  | array (items : List Value)
  | object (members : List (List UInt16 × Value))

mutual

def Value.tokens : Value → List Token
  | .null => [.null]
  | .bool b => [.bool b]
  | .number spelling => [.number spelling]
  | .string units => [.string units]
  | .array items => .openBracket :: itemTokens items
  | .object members => .openBrace :: memberTokens members

/-- The items of an array up to its closing bracket. -/
def itemTokens : List Value → List Token
  | [] => [.closeBracket]
  | item :: rest => item.tokens ++ laterItemTokens rest

def laterItemTokens : List Value → List Token
  | [] => [.closeBracket]
  | item :: rest => .comma :: item.tokens ++ laterItemTokens rest

/-- The members of an object up to its closing brace. -/
def memberTokens : List (List UInt16 × Value) → List Token
  | [] => [.closeBrace]
  | (name, v) :: rest => .string name :: .colon :: v.tokens ++ laterMemberTokens rest

def laterMemberTokens : List (List UInt16 × Value) → List Token
  | [] => [.closeBrace]
  | (name, v) :: rest => .comma :: .string name :: .colon :: v.tokens ++ laterMemberTokens rest

end

/-- The value without any spaces. -/
def Value.text (v : Value) : String := String.ofList (v.tokens.flatMap Token.text)

/-- A container that is still open, with what it has so far, nearest first. -/
inductive Frame where
  | array (items : List Value)
  /-- The member whose value is being read has the name `name`. -/
  | object (members : List (List UInt16 × Value)) (name : List UInt16)

/-- What may come next inside the open containers. -/
inductive State where
  | value (stack : List Frame)
  | firstItem (stack : List Frame)
  | firstName (stack : List Frame)
  | name (members : List (List UInt16 × Value)) (stack : List Frame)
  | colon (members : List (List UInt16 × Value)) (name : List UInt16) (stack : List Frame)
  /-- A value ended; it belongs to the nearest open container, or is the whole text's. -/
  | after (v : Value) (stack : List Frame)

/-- Begins a value. -/
def beginValue? (stack : List Frame) : Token → Option State
  | .null => some (.after .null stack)
  | .bool b => some (.after (.bool b) stack)
  | .number spelling => some (.after (.number spelling) stack)
  | .string units => some (.after (.string units) stack)
  | .openBracket => some (.firstItem stack)
  | .openBrace => some (.firstName stack)
  | _ => none

/-- Goes on after a value inside an open container. -/
def afterValue? (v : Value) (frame : Frame) (stack : List Frame) (token : Token) : Option State :=
  match frame, token with
  | .array items, .comma => some (.value (.array (v :: items) :: stack))
  | .array items, .closeBracket => some (.after (.array (v :: items).reverse) stack)
  | .object members name, .comma => some (.name ((name, v) :: members) stack)
  | .object members name, .closeBrace =>
    some (.after (.object ((name, v) :: members).reverse) stack)
  | _, _ => none

def step? (state : State) (token : Token) : Option State :=
  match state, token with
  | .value stack, token => beginValue? stack token
  | .firstItem stack, .closeBracket => some (.after (.array []) stack)
  | .firstItem stack, token => beginValue? (.array [] :: stack) token
  | .firstName stack, .closeBrace => some (.after (.object []) stack)
  | .firstName stack, .string name => some (.colon [] name stack)
  | .name members stack, .string name => some (.colon members name stack)
  | .colon members name stack, .colon => some (.value (.object members name :: stack))
  | .after v (frame :: stack), token => afterValue? v frame stack token
  | _, _ => none

/-- The state after all tokens, if each of them may come where it comes. -/
def run? : State → List Token → Option State
  | state, [] => some state
  | state, token :: rest =>
    match step? state token with
    | some state => run? state rest
    | none => none

def Value.ofTokens? (tokens : List Token) : Option Value :=
  match run? (.value []) tokens with
  | some (.after v []) => some v
  | _ => none

/-- The value that a text spells. -/
def Value.read? (s : String) : Option Value := (tokens? s.toList).bind Value.ofTokens?

/-- No value begins with a closing bracket, so the first item is read as any other. -/
theorem run?_firstItem (v : Value) (stack : List Frame) (rest : List Token) :
    run? (.firstItem stack) (v.tokens ++ rest) =
      run? (.value (.array [] :: stack)) (v.tokens ++ rest) := by
  cases v <;> simp [Value.tokens, run?, step?]

mutual

theorem run?_tokens (v : Value) (stack : List Frame) (rest : List Token) :
    run? (.value stack) (v.tokens ++ rest) = run? (.after v stack) rest := by
  match v with
  | .null => simp [Value.tokens, run?, step?, beginValue?]
  | .bool b => simp [Value.tokens, run?, step?, beginValue?]
  | .number spelling => simp [Value.tokens, run?, step?, beginValue?]
  | .string units => simp [Value.tokens, run?, step?, beginValue?]
  | .array [] => simp [Value.tokens, itemTokens, run?, step?, beginValue?]
  | .array (item :: items) =>
    have later := run?_laterItemTokens item [] items stack rest
    have first := run?_tokens item (.array [] :: stack) (laterItemTokens items ++ rest)
    rw [later] at first
    simp only [Value.tokens, itemTokens, List.cons_append, List.append_assoc]
    rw [run?]
    simp only [step?, beginValue?]
    exact (run?_firstItem ..).trans first
  | .object [] => simp [Value.tokens, memberTokens, run?, step?, beginValue?]
  | .object ((name, item) :: members) =>
    have later := run?_laterMemberTokens name item [] members stack rest
    have first := run?_tokens item (.object [] name :: stack) (laterMemberTokens members ++ rest)
    rw [later] at first
    simp only [Value.tokens, memberTokens, List.cons_append, List.append_assoc]
    simp only [run?, step?, beginValue?]
    rw [first]
    rfl

theorem run?_laterItemTokens (item : Value) (before items : List Value) (stack : List Frame)
    (rest : List Token) :
    run? (.after item (.array before :: stack)) (laterItemTokens items ++ rest) =
      run? (.after (.array (before.reverse ++ item :: items)) stack) rest := by
  match items with
  | [] => simp [laterItemTokens, run?, step?, afterValue?]
  | next :: items =>
    have later := run?_laterItemTokens next (item :: before) items stack rest
    have first :=
      run?_tokens next (.array (item :: before) :: stack) (laterItemTokens items ++ rest)
    simp only [laterItemTokens, List.cons_append, List.append_assoc, run?, step?, afterValue?]
    rw [first, later]
    simp

theorem run?_laterMemberTokens (name : List UInt16) (item : Value)
    (before members : List (List UInt16 × Value)) (stack : List Frame) (rest : List Token) :
    run? (.after item (.object before name :: stack)) (laterMemberTokens members ++ rest) =
      run? (.after (.object (before.reverse ++ (name, item) :: members)) stack) rest := by
  match members with
  | [] => simp [laterMemberTokens, run?, step?, afterValue?]
  | (next, v) :: members =>
    have later := run?_laterMemberTokens next v ((name, item) :: before) members stack rest
    have first := run?_tokens v (.object ((name, item) :: before) next :: stack)
      (laterMemberTokens members ++ rest)
    simp only [laterMemberTokens, List.cons_append, List.append_assoc, run?, step?, afterValue?]
    rw [first, later]
    simp

end

/-- The tokens of a value are read as that value. -/
theorem Value.ofTokens?_tokens (v : Value) : Value.ofTokens? v.tokens = some v := by
  have := run?_tokens v [] []
  rw [List.append_nil] at this
  rw [Value.ofTokens?, this]
  rfl

end KeyPath.Json
