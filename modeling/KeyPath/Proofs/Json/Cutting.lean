import KeyPath.Proofs.Json.Spelling

/-!
# Cutting JSON texts

A text has some tokens when it is their spellings in order, with spaces between them and around.
Cutting finds exactly the tokens that a text has, as long as no two of them stand side by side
whose characters would run together.
-/

namespace KeyPath.Json

/-- The text is the tokens, with spaces alone between them and around. -/
inductive Spaced : List Token → List Char → Prop where
  | nil {spaces : List Char} (blank : ∀ c ∈ spaces, isSpace c = true) : Spaced [] spaces
  | cons {spaces front rest : List Char} {token : Token} {tokens : List Token}
      (blank : ∀ c ∈ spaces, isSpace c = true) (spells : token.Spells front)
      (later : Spaced tokens rest) : Spaced (token :: tokens) (spaces ++ (front ++ rest))

/-- The first token is not a word or a number. -/
def BeginsClosed (tokens : List Token) : Prop :=
  ∀ token, tokens.head? = some token → token.isOpen = false

/-- No two words or numbers stand side by side. -/
def Apart : List Token → Prop
  | [] => True
  | token :: rest => (token.isOpen = true → BeginsClosed rest) ∧ Apart rest

theorem no_spaces : ∀ c ∈ ([] : List Char), isSpace c = true := by simp

theorem isWordChar_of_isSpace {c : Char} (space : isSpace c = true) : isWordChar c = false := by
  simp only [isSpace, Bool.or_eq_true, decide_eq_true_eq] at space
  rcases space with ((rfl | rfl) | rfl) | rfl <;> rfl

theorem Number.isSpace_head {cs : List Char} (number : Number cs) :
    ∃ c rest, cs = c :: rest ∧ isSpace c = false := by
  obtain ⟨c, rest, rfl, -⟩ := number.exists_head
  refine ⟨c, rest, rfl, ?_⟩
  rw [Bool.eq_false_iff]
  intro space
  have other := isWordChar_of_isSpace space
  rw [isWordChar, number.isNumberChar c List.mem_cons_self, Bool.or_true] at other
  cases other

theorem Token.Spells.exists_head {token : Token} {front : List Char} (spells : token.Spells front) :
    ∃ c rest, front = c :: rest ∧ isSpace c = false ∧
      (token.isOpen = false → isWordChar c = false) := by
  cases spells with
  | number number =>
    obtain ⟨c, rest, rfl, solid⟩ := number.isSpace_head
    exact ⟨c, rest, rfl, solid, by rintro ⟨⟩⟩
  | string quoted => exact ⟨'"', _, rfl, rfl, fun _ => rfl⟩
  | _ => exact ⟨_, _, rfl, rfl, by decide⟩

theorem Spaced.stops {tokens : List Token} {text : List Char} (spaced : Spaced tokens text)
    (closed : BeginsClosed tokens) : Stops isWordChar text := by
  have spaceStops {spaces rest : List Char} (blank : ∀ c ∈ spaces, isSpace c = true)
      (stops : Stops isWordChar rest) : Stops isWordChar (spaces ++ rest) := by
    cases spaces with
    | nil => exact stops
    | cons c spaces => exact stops_cons (isWordChar_of_isSpace (blank c List.mem_cons_self))
  cases spaced with
  | nil blank =>
    rw [← List.append_nil text]
    exact spaceStops blank stops_nil
  | cons blank spells _ =>
    obtain ⟨c, rest, rfl, -, own⟩ := spells.exists_head
    exact spaceStops blank (stops_cons (own (closed _ rfl)))

theorem tokensOnto?_spaces {read : List Token} {spaces cs : List Char}
    (blank : ∀ c ∈ spaces, isSpace c = true) :
    tokensOnto? read (spaces ++ cs) = tokensOnto? read cs := by
  induction spaces with
  | nil => rfl
  | cons c spaces ih =>
    rw [List.cons_append, tokensOnto?, if_pos (blank c List.mem_cons_self)]
    exact ih fun d member => blank d (List.mem_cons_of_mem c member)

theorem tokensOnto?_token {read : List Token} {token : Token} {front rest : List Char}
    (spells : token.Spells front) (stops : token.isOpen = true → Stops isWordChar rest) :
    tokensOnto? read (front ++ rest) = tokensOnto? (token :: read) rest := by
  have taken := readToken?_append spells stops
  obtain ⟨c, tail, rfl, solid, -⟩ := spells.exists_head
  rw [List.cons_append] at taken ⊢
  rw [tokensOnto?, if_neg (by simp [solid])]
  split
  · next out eq =>
    obtain rfl : (token, rest) = out := Option.some.inj (taken.symm.trans eq)
    rfl
  · next eq =>
    rw [taken] at eq
    cases eq

theorem tokensOnto?_eq_some {read tokens : List Token} {text : List Char}
    (spaced : Spaced tokens text) (apart : Apart tokens) :
    tokensOnto? read text = some (read.reverse ++ tokens) := by
  induction spaced generalizing read with
  | @nil spaces blank =>
    rw [← List.append_nil spaces, tokensOnto?_spaces blank, tokensOnto?, List.append_nil]
  | cons blank spells later ih =>
    rw [tokensOnto?_spaces blank, tokensOnto?_token spells fun long => later.stops (apart.1 long),
      ih apart.2]
    simp

theorem spaced_of_tokensOnto?_eq_some {read all : List Token} {text : List Char}
    (done : tokensOnto? read text = some all) :
    ∃ tokens, all = read.reverse ++ tokens ∧ Spaced tokens text := by
  fun_induction tokensOnto? read text with
  | case1 read =>
    obtain rfl := Option.some.inj done
    exact ⟨[], by simp, .nil no_spaces⟩
  | case2 read c rest space ih =>
    obtain ⟨tokens, rfl, spaced⟩ := ih done
    refine ⟨tokens, rfl, ?_⟩
    have wider {spaces : List Char} (blank : ∀ d ∈ spaces, isSpace d = true) :
        ∀ d ∈ c :: spaces, isSpace d = true := List.forall_mem_cons.mpr ⟨space, blank⟩
    cases spaced with
    | nil blank => exact .nil (wider blank)
    | cons blank spells later => exact .cons (wider blank) spells later
  | case3 read c rest solid out taken ih =>
    obtain ⟨tokens, rfl, spaced⟩ := ih done
    obtain ⟨front, eq, spells⟩ := exists_of_readToken?_eq_some taken
    refine ⟨out.1 :: tokens, by simp, ?_⟩
    rw [eq]
    exact .cons no_spaces spells spaced
  | case4 => cases done

/-- Cutting finds only tokens that the text has. -/
theorem spaced_of_tokens?_eq_some {tokens : List Token} {text : List Char}
    (done : tokens? text = some tokens) : Spaced tokens text := by
  obtain ⟨found, rfl, spaced⟩ := spaced_of_tokensOnto?_eq_some done
  exact spaced

/-- Cutting finds the tokens that a text has, if they cannot run together. -/
theorem tokens?_eq_some {tokens : List Token} {text : List Char} (spaced : Spaced tokens text)
    (apart : Apart tokens) : tokens? text = some tokens := tokensOnto?_eq_some spaced apart

/-- The text of some tokens without spaces has these tokens. -/
theorem spaced_flatMap_text {tokens : List Token}
    (spelled : ∀ token ∈ tokens, token.Spells token.text) :
    Spaced tokens (tokens.flatMap Token.text) := by
  induction tokens with
  | nil => exact .nil no_spaces
  | cons token tokens ih =>
    rw [List.forall_mem_cons] at spelled
    exact .cons no_spaces spelled.1 (ih spelled.2)

end KeyPath.Json
