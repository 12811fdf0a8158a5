import KeyPath.Proofs.Path.Language

/-!
# Where a path is refused

A refusal names the first bad token: every piece before it may stand where it does, and the text
before it is a path.  The place that is named is where the token stands in the text, and the
token alone is refused as a segment for the same reason.
-/

namespace KeyPath.Path

open Text

/-- Reading stops at the first token that spells no segment. -/
theorem exists_of_value_readSegments_eq_error {text : String} {ts : List (List Char × Nat)}
    {fault : Fault} (refused : (readSegments text ts).value = .error fault) :
    ∃ before placed after reason, ts = before ++ placed :: after ∧
      (∀ other ∈ before, ∃ s, Segment.Spells s other.1) ∧
      Segment.ofToken placed.1 = .error reason ∧
      fault = .malformed (String.ofList placed.1) placed.2 reason := by
  induction ts with
  | nil => cases refused
  | cons placed ts ih =>
    rw [value_readSegments_cons] at refused
    cases read : Segment.ofToken placed.1 with
    | error reason =>
      rw [read] at refused
      exact ⟨[], placed, ts, reason, rfl, by simp, read, (Except.error.inj refused).symm⟩
    | ok s =>
      rw [read] at refused
      have later := map_eq_error_iff.mp refused
      obtain ⟨before, bad, after, reason, split, spelled, refusal, named⟩ := ih later
      refine ⟨placed :: before, bad, after, reason, by rw [split, List.cons_append], ?_, refusal,
        named⟩
      intro other member
      rcases List.mem_cons.mp member with rfl | inside
      · exact ⟨s, Segment.ofToken_eq_ok_iff.mp read⟩
      · exact spelled other inside

/-- At most the first token is taken away, and only for the letter of a kind of keys. -/
theorem exists_lead_splitKind (ts : List (List Char × Nat)) :
    ∃ lead, ts = lead ++ (splitKind ts).2 ∧
      (lead = [] ∨ ∃ first, lead = [first] ∧ (first.1 = ['m'] ∨ first.1 = ['M'])) := by
  cases ts with
  | nil => exact ⟨[], rfl, Or.inl rfl⟩
  | cons first rest =>
    rw [splitKind]
    cases eq : KeyKind.ofToken? first.1 with
    | none => exact ⟨[], rfl, Or.inl rfl⟩
    | some kind =>
      have letter : first.1 = ['m'] ∨ first.1 = ['M'] := by
        rw [← isSome_ofToken?_iff, eq]
        rfl
      exact ⟨[first], rfl, Or.inr ⟨first, rfl, letter⟩⟩

/-- A token among the tokens that are not empty, among all tokens. -/
theorem exists_split_of_filter {ts good more : List (List Char × Nat)} {placed : List Char × Nat}
    (split : (ts.filter fun other => !other.1.isEmpty) = good ++ placed :: more) :
    ∃ front back, ts = front ++ placed :: back ∧ placed.1 ≠ [] ∧
      ∀ other ∈ front, other.1 = [] ∨ other ∈ good := by
  obtain ⟨early, tail, rfl, kept, others⟩ := List.filter_eq_append_iff.mp split
  obtain ⟨late, back, rfl, blank, nonempty, -⟩ := List.filter_eq_cons_iff.mp others
  refine ⟨early ++ late, back, by simp, by simpa using nonempty, ?_⟩
  intro other member
  rcases List.mem_append.mp member with first | second
  · by_cases empty : other.1 = []
    · exact Or.inl empty
    · exact Or.inr (kept ▸ List.mem_filter.mpr ⟨first, by simpa using empty⟩)
  · exact Or.inl (by simpa using blank other second)

/-- The pieces of the tokens before one of the tokens, and of the token itself. -/
theorem exists_pieces_of_placedTokens {s : String} {before after : List (List Char × Nat)}
    {placed : List Char × Nat} (eq : placedTokens s = before ++ placed :: after) :
    ∃ front piece back, locatedPieces '/' s.toList = front ++ piece :: back ∧
      front.map Piece.token = before.map Prod.fst ∧ placed = (piece.token, piece.position) := by
  rw [placedTokens_eq] at eq
  obtain ⟨front, rest, split, rfl, tail⟩ := List.map_eq_append_iff.mp eq
  obtain ⟨piece, back, rfl, rfl, -⟩ := List.map_eq_cons_iff.mp tail
  refine ⟨front, piece, back, split, ?_, rfl⟩
  rw [List.map_map]
  rfl

/-- The piece that a refusal is about, among all pieces of the text. -/
theorem exists_of_value_parse_eq_error {s : String} {fault : Fault}
    (refused : (parse s).value = .error fault) :
    ∃ before piece after reason, locatedPieces '/' s.toList = before ++ piece :: after ∧
      (∀ i token, (before.map Piece.token)[i]? = some token → Allowed i token) ∧
      piece.token ≠ [] ∧ Segment.ofToken piece.token = .error reason ∧
      fault = .malformed (String.ofList piece.token) piece.position reason := by
  rw [value_parse, map_eq_error_iff] at refused
  obtain ⟨good, placed, more, reason, split, spelled, bad, named⟩ :=
    exists_of_value_readSegments_eq_error refused
  obtain ⟨front, late, tokens, nonempty, passed⟩ := exists_split_of_filter split
  obtain ⟨lead, whole, letter⟩ := exists_lead_splitKind (placedTokens s)
  rw [tokens, ← List.append_assoc] at whole
  obtain ⟨before, piece, after, pieces, earlier, rfl⟩ := exists_pieces_of_placedTokens whole
  have later : ∀ token ∈ front.map Prod.fst,
      token = [] ∨ ∃ segment, Segment.Spells segment token := by
    intro token member
    obtain ⟨other, inside, rfl⟩ := List.mem_map.mp member
    exact (passed other inside).imp_right (spelled other)
  refine ⟨before, piece, after, reason, pieces, ?_, nonempty, bad, named⟩
  rw [earlier]
  rcases letter with rfl | ⟨first, rfl, letter⟩
  · intro i token eq
    rcases later token (List.mem_iff_getElem?.mpr ⟨i, eq⟩) with empty | spells
    · exact Or.inl empty
    · exact Or.inr (Or.inr spells)
  · exact forall_allowed_cons_iff.mpr ⟨Or.inr (Or.inl ⟨rfl, letter⟩), later⟩

/-- The tokens of some pieces with a slash after each, and of blanks after the last slash. -/
theorem tokens_closed_append {raws : List (List Char)} (none : ∀ raw ∈ raws, '/' ∉ raw)
    {blanks : List Char} (blank : ∀ c ∈ blanks, isBlank c = true) :
    tokens (String.ofList (closed '/' raws ++ blanks)) = raws.map trim ++ [[]] := by
  have last : '/' ∉ blanks := fun member => absurd (blank '/' member) (by decide)
  rw [tokens, String.toList_ofList, pieces_closed_append '/' none, pieces_of_notMem '/' last,
    List.map_append, List.map_singleton, trim_of_all blank]

/-- Pieces that may stand where they do make a path, with blanks after the last slash. -/
theorem exists_value_parse_closed {raws : List (List Char)} (none : ∀ raw ∈ raws, '/' ∉ raw)
    (allowed : ∀ i token, (raws.map trim)[i]? = some token → Allowed i token)
    {blanks : List Char} (blank : ∀ c ∈ blanks, isBlank c = true) :
    ∃ p, (parse (String.ofList (closed '/' raws ++ blanks))).value = .ok p := by
  rw [exists_value_parse_iff, tokens_closed_append none blank]
  intro i token eq
  by_cases early : i < (raws.map trim).length
  · rw [List.getElem?_append_left early] at eq
    exact allowed i token eq
  · rw [List.getElem?_append_right (Nat.le_of_not_lt early)] at eq
    have empty : token = [] := by simpa using List.mem_iff_getElem?.mpr ⟨_, eq⟩
    exact Or.inl empty

/-- A refusal locates the first bad token: where it stands, that it is a whole token, that it is
refused alone, and that the text before it is a path. -/
theorem refusal_locates_first_bad_token {s token : String} {position : Nat} {reason : TokenFault}
    (refused : (parse s).value = .error (.malformed token position reason)) :
    StandsAt s token position ∧ token ≠ "" ∧ '/' ∉ token.toList ∧ Trimmed token.toList ∧
      (Segment.parse token).value = .error (.malformed token 0 reason) ∧
      ∃ before after, s = before ++ token ++ after ∧ before.utf8ByteSize = position ∧
        (∀ c ∈ after.toList.takeWhile (· ≠ '/'), isBlank c = true) ∧
        ∃ p, (parse before).value = .ok p := by
  obtain ⟨before, piece, after, cause, eq, allowed, nonempty, bad, named⟩ :=
    exists_of_value_parse_eq_error refused
  obtain ⟨rfl, rfl, rfl⟩ := Fault.malformed.inj named
  obtain ⟨front, back, text, frontText, size, rest⟩ := text_around_token '/' eq
  have found : piece ∈ locatedPieces '/' s.toList := by simp [eq]
  have inside : '/' ∉ piece.raw := separator_notMem_raw '/' found
  have earlier : ∀ raw ∈ before.map Piece.raw, '/' ∉ raw := by
    intro raw member
    obtain ⟨other, place, rfl⟩ := List.mem_map.mp member
    have listed : other ∈ locatedPieces '/' s.toList := by simp [eq, place]
    exact separator_notMem_raw '/' listed
  have accepted : ∃ p, (parse front).value = .ok p := by
    rw [frontText]
    apply exists_value_parse_closed earlier _ fun c member => isBlank_of_mem_leadingBlanks member
    rwa [List.map_map]
  refine ⟨?_, ?_, ?_, ?_, ?_, front, back, text, size, rest, accepted⟩
  · rw [text, ← size]
    exact standsAt_append front (String.ofList piece.token) back
  · intro empty
    apply nonempty
    rw [← String.toList_ofList (l := piece.token), empty]
    rfl
  · rw [String.toList_ofList]
    exact fun member => inside (mem_of_mem_trim member)
  · rw [String.toList_ofList]
    exact trimmed_trim piece.raw
  · exact Segment.value_parse_of_trimmed (trimmed_trim piece.raw) bad

/-- Blanks of three bytes stand before and inside the pieces, and a later token is bad too. -/
theorem refusal_locates_first_bad_token_wide :
    (parse "\u3000m//\u2003 7h /\u30001 2 /x").value =
        .error (.malformed "1 2" 17 .invalidDigits) ∧
      StandsAt "\u3000m//\u2003 7h /\u30001 2 /x" "1 2" 17 := by
  have refused : (parse "\u3000m//\u2003 7h /\u30001 2 /x").value =
      .error (.malformed "1 2" 17 .invalidDigits) := by rfl
  exact ⟨refused, (refusal_locates_first_bad_token refused).1⟩

end KeyPath.Path
