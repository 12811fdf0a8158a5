import KeyPath.Json.Value
import KeyPath.Proofs.Json.Cutting
import KeyPath.Proofs.Json.Units

/-!
# Reading JSON values

The open containers and the last value say all the tokens that were read, so reading loses nothing:
a value is read from its own tokens alone.  With the cutting of texts this says which texts spell a
value: those that are its tokens with spaces between them, and the text that is written is one.
-/

namespace KeyPath.Json

/-- The items that have a comma after them. -/
def pastItems (items : List Value) : List Token := items.flatMap fun v => v.tokens ++ [.comma]

/-- The members that have a comma after them. -/
def pastMembers (members : List (List UInt16 × Value)) : List Token :=
  members.flatMap fun m => .string m.1 :: .colon :: m.2.tokens ++ [.comma]

/-- The tokens of a container before the value that is being read in it. -/
def Frame.tokens : Frame → List Token
  | .array items => .openBracket :: pastItems items.reverse
  | .object members name =>
    .openBrace :: (pastMembers members.reverse ++ [.string name, .colon])

/-- The tokens of all open containers, of which the outermost is the last. -/
def stackTokens (stack : List Frame) : List Token := stack.reverse.flatMap Frame.tokens

/-- The tokens that lead to a state. -/
def State.tokens : State → List Token
  | .value stack => stackTokens stack
  | .firstItem stack => stackTokens stack ++ [.openBracket]
  | .firstName stack => stackTokens stack ++ [.openBrace]
  | .name members stack => stackTokens stack ++ .openBrace :: pastMembers members.reverse
  | .colon members key stack =>
    stackTokens stack ++ .openBrace :: (pastMembers members.reverse ++ [.string key])
  | .after v stack => stackTokens stack ++ v.tokens

theorem stackTokens_cons (frame : Frame) (stack : List Frame) :
    stackTokens (frame :: stack) = stackTokens stack ++ frame.tokens := by
  simp [stackTokens]

theorem pastItems_concat (items : List Value) (v : Value) :
    pastItems (items ++ [v]) = pastItems items ++ (v.tokens ++ [.comma]) := by
  simp [pastItems]

theorem pastMembers_concat (members : List (List UInt16 × Value)) (name : List UInt16)
    (v : Value) :
    pastMembers (members ++ [(name, v)]) =
      pastMembers members ++ (.string name :: .colon :: v.tokens ++ [.comma]) := by
  simp [pastMembers]

theorem itemTokens_concat (items : List Value) (v : Value) :
    itemTokens (items ++ [v]) = pastItems items ++ (v.tokens ++ [.closeBracket]) := by
  induction items with
  | nil => rfl
  | cons first items ih =>
    have next : laterItemTokens (items ++ [v]) = .comma :: itemTokens (items ++ [v]) := by
      cases items <;> rfl
    rw [List.cons_append, itemTokens, next, ih]
    simp [pastItems]

theorem memberTokens_concat (members : List (List UInt16 × Value)) (name : List UInt16)
    (v : Value) :
    memberTokens (members ++ [(name, v)]) =
      pastMembers members ++ (.string name :: .colon :: v.tokens ++ [.closeBrace]) := by
  induction members with
  | nil => rfl
  | cons first members ih =>
    have next : laterMemberTokens (members ++ [(name, v)]) =
        .comma :: memberTokens (members ++ [(name, v)]) := by
      cases members <;> rfl
    rw [List.cons_append, memberTokens, next, ih]
    simp [pastMembers]

theorem mem_tokens_of_mem_laterItemTokens {spelling : List Char} {items : List Value}
    (member : Token.number spelling ∈ laterItemTokens items) :
    ∃ v ∈ items, Token.number spelling ∈ v.tokens := by
  induction items with
  | nil => cases List.mem_singleton.mp member
  | cons v items ih =>
    rcases List.mem_append.mp (List.mem_of_ne_of_mem (by simp) member) with inside | later
    · exact ⟨v, List.mem_cons_self, inside⟩
    · obtain ⟨w, among, inside⟩ := ih later
      exact ⟨w, List.mem_cons_of_mem v among, inside⟩

/-- The numbers of an array are those of its items. -/
theorem mem_tokens_of_mem_itemTokens {spelling : List Char} {items : List Value}
    (member : Token.number spelling ∈ itemTokens items) :
    ∃ v ∈ items, Token.number spelling ∈ v.tokens := by
  cases items with
  | nil => cases List.mem_singleton.mp member
  | cons v items =>
    apply mem_tokens_of_mem_laterItemTokens
    exact List.mem_cons_of_mem .comma member

variable {state next final : State} {token : Token} {tokens : List Token}

theorem tokens_of_beginValue? {stack : List Frame} (done : beginValue? stack token = some next) :
    next.tokens = stackTokens stack ++ [token] := by
  cases token <;> cases done <;> simp [State.tokens, Value.tokens]

theorem tokens_of_afterValue? {v : Value} {frame : Frame} {stack : List Frame}
    (done : afterValue? v frame stack token = some next) :
    next.tokens = stackTokens (frame :: stack) ++ v.tokens ++ [token] := by
  rw [stackTokens_cons]
  unfold afterValue? at done
  split at done
  · cases done
    simp [State.tokens, stackTokens_cons, Frame.tokens, pastItems_concat]
  · cases done
    simp [State.tokens, Value.tokens, Frame.tokens, itemTokens_concat]
  · cases done
    simp [State.tokens, Frame.tokens, pastMembers_concat]
  · cases done
    simp [State.tokens, Value.tokens, Frame.tokens, memberTokens_concat]
  · cases done

/-- A step adds its token to those that were read. -/
theorem tokens_of_step? (done : step? state token = some next) :
    next.tokens = state.tokens ++ [token] := by
  unfold step? at done
  split at done
  · exact tokens_of_beginValue? done
  · cases done
    simp [State.tokens, Value.tokens, itemTokens]
  · rw [tokens_of_beginValue? done, stackTokens_cons]
    simp [State.tokens, Frame.tokens, pastItems]
  · cases done
    simp [State.tokens, Value.tokens, memberTokens]
  · cases done
    simp [State.tokens, pastMembers]
  · cases done
    simp [State.tokens]
  · cases done
    simp [State.tokens, stackTokens_cons, Frame.tokens]
  · exact tokens_of_afterValue? done
  · cases done

theorem exists_of_run?_cons (done : run? state (token :: tokens) = some final) :
    ∃ next, step? state token = some next ∧ run? next tokens = some final := by
  rw [run?] at done
  cases first : step? state token with
  | none =>
    rw [first] at done
    cases done
  | some next =>
    rw [first] at done
    exact ⟨next, rfl, done⟩

/-- A run adds its tokens to those that were read. -/
theorem tokens_of_run? (done : run? state tokens = some final) :
    final.tokens = state.tokens ++ tokens := by
  induction tokens generalizing state with
  | nil =>
    cases done
    exact (List.append_nil _).symm
  | cons token tokens ih =>
    obtain ⟨next, first, later⟩ := exists_of_run?_cons done
    rw [ih later, tokens_of_step? first, List.append_assoc]
    rfl

/-- A value is read from its own tokens and from no others. -/
theorem Value.ofTokens?_eq_some_iff {v : Value} :
    Value.ofTokens? tokens = some v ↔ tokens = v.tokens := by
  constructor
  · intro done
    unfold Value.ofTokens? at done
    split at done
    · next last =>
      cases done
      exact (tokens_of_run? last).symm
    · cases done
  · rintro rfl
    exact ofTokens?_tokens v

/-- A word or a number ends a value. -/
theorem exists_after_of_step? (done : step? state token = some next)
    (long : token.isOpen = true) : ∃ v stack, next = .after v stack := by
  have begins {stack : List Frame} (done : beginValue? stack token = some next) :
      ∃ v stack, next = .after v stack := by
    cases token <;> cases long <;> cases done <;> exact ⟨_, _, rfl⟩
  unfold step? at done
  split at done
  · exact begins done
  · cases long
  · exact begins done
  · cases long
  · cases long
  · cases long
  · cases long
  · unfold afterValue? at done
    split at done <;> first | cases long | cases done
  · cases done

theorem beginsClosed_of_run?_after {v : Value} {stack : List Frame}
    (done : run? (.after v stack) tokens = some final) : BeginsClosed tokens := by
  rintro token first
  cases tokens with
  | nil => cases first
  | cons head tokens =>
    cases first
    cases stack with
    | nil => cases done
    | cons frame stack => cases token <;> cases frame <;> first | rfl | cases done

/-- No two words or numbers stand side by side in tokens that can be read. -/
theorem apart_of_run? (done : run? state tokens = some final) : Apart tokens := by
  induction tokens generalizing state with
  | nil => trivial
  | cons token tokens ih =>
    obtain ⟨next, first, later⟩ := exists_of_run?_cons done
    refine ⟨fun long => ?_, ih later⟩
    obtain ⟨v, stack, rfl⟩ := exists_after_of_step? first long
    exact beginsClosed_of_run?_after later

theorem Value.apart_tokens (v : Value) : Apart v.tokens := by
  have whole := run?_tokens v [] []
  rw [List.append_nil] at whole
  exact apart_of_run? whole

/-- A text is read as the value whose tokens it has. -/
theorem Value.read?_eq_some_iff {s : String} {v : Value} :
    Value.read? s = some v ↔ Spaced v.tokens s.toList := by
  constructor
  · intro done
    obtain ⟨tokens, cut, read⟩ := Option.bind_eq_some_iff.mp done
    rw [← Value.ofTokens?_eq_some_iff.mp read]
    exact spaced_of_tokens?_eq_some cut
  · intro spaced
    exact Option.bind_eq_some_iff.mpr
      ⟨v.tokens, tokens?_eq_some spaced v.apart_tokens, v.ofTokens?_tokens⟩

/-- What is written for a token spells it, if the numbers are numbers. -/
theorem Token.spells_text {token : Token}
    (number : ∀ spelling, token = .number spelling → Number spelling) :
    token.Spells token.text := by
  cases token with
  | openBracket => exact .openBracket
  | closeBracket => exact .closeBracket
  | openBrace => exact .openBrace
  | closeBrace => exact .closeBrace
  | comma => exact .comma
  | colon => exact .colon
  | null => exact .null
  | bool b =>
    cases b with
    | true => exact .boolTrue
    | false => exact .boolFalse
  | number spelling => exact .number (number spelling rfl)
  | string units => exact .string (quoted_flatMap_unitText units)

/-- The text of a value has its tokens, if the numbers in it are numbers. -/
theorem Value.spaced_text {v : Value}
    (numbers : ∀ spelling, Token.number spelling ∈ v.tokens → Number spelling) :
    Spaced v.tokens v.text.toList := by
  rw [Value.text, String.toList_ofList]
  exact spaced_flatMap_text fun token member =>
    Token.spells_text fun spelling eq => numbers spelling (eq ▸ member)

end KeyPath.Json
