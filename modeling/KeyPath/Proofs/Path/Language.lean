import KeyPath.Path.Parse
import KeyPath.Proofs.Pointwise
import KeyPath.Proofs.Segment.Language
import KeyPath.Proofs.Text.Scanning

/-!
# The language of paths

Which texts are paths, said by their tokens, the trimmed pieces between slashes: each one is empty,
or is the first one and the letter of a kind of keys, or spells a segment.  Reading accepts exactly
these texts.  The segments of the path that it gives are what the tokens spell, in order, and the
path is private exactly when the first token says so.
-/

namespace KeyPath

namespace Path

open Text

/-- The trimmed pieces of a text between its slashes. -/
def tokens (s : String) : List (List Char) := (pieces '/' s.toList).map trim

/-- Tokens without the letter of a kind of keys in front. -/
def dropKind : List (List Char) → List (List Char)
  | [] => []
  | first :: rest => if first = ['m'] ∨ first = ['M'] then rest else first :: rest

/-- The tokens that have to spell segments. -/
def segmentTokens (s : String) : List (List Char) := (dropKind (tokens s)).filter (· ≠ [])

/-- Whether the token may stand at place `i` of a path's text. -/
def Allowed (i : Nat) (token : List Char) : Prop :=
  token = [] ∨ (i = 0 ∧ (token = ['m'] ∨ token = ['M'])) ∨ ∃ s, Segment.Spells s token

example : segmentTokens " m / 44 H//0 " = ["44 H".toList, "0".toList] := by decide

/-- What is read are the located pieces of the text, trimmed. -/
theorem placedTokens_eq (s : String) :
    placedTokens s = (locatedPieces '/' s.toList).map Piece.placed :=
  Scan.tokens_run_pieces '/' s.toList

theorem map_fst_placedTokens (s : String) : (placedTokens s).map Prod.fst = tokens s := by
  rw [placedTokens_eq, tokens, ← map_raw_locatedPieces '/' s.toList, List.map_map, List.map_map]
  rfl

theorem isSome_ofToken?_iff {token : List Char} :
    (KeyKind.ofToken? token).isSome = true ↔ token = ['m'] ∨ token = ['M'] := by
  rw [Option.isSome_iff_exists]
  constructor
  · rintro ⟨kind, eq⟩
    rw [KeyKind.ofToken?_eq_some_iff] at eq
    cases kind with
    | priv => exact Or.inl eq
    | pub => exact Or.inr eq
  · rintro (rfl | rfl)
    · exact ⟨.priv, rfl⟩
    · exact ⟨.pub, rfl⟩

theorem map_fst_splitKind (ts : List (List Char × Nat)) :
    (splitKind ts).2.map Prod.fst = dropKind (ts.map Prod.fst) := by
  cases ts with
  | nil => rfl
  | cons first rest =>
    have letter : (KeyKind.ofToken? first.1).isSome = true ↔
        first.1 = ['m'] ∨ first.1 = ['M'] := isSome_ofToken?_iff
    rw [List.map_cons, dropKind, splitKind]
    cases eq : KeyKind.ofToken? first.1 with
    | none =>
      have other : ¬ (first.1 = ['m'] ∨ first.1 = ['M']) := by
        rw [← letter, eq]
        simp
      rw [if_neg other, List.map_cons]
    | some kind =>
      have named : first.1 = ['m'] ∨ first.1 = ['M'] := by
        rw [← letter, eq]
        rfl
      rw [if_pos named]

theorem map_fst_placedSegments (s : String) :
    (placedSegments s).map Prod.fst = segmentTokens s := by
  have nonempty : ((fun token : List Char => decide (token ≠ [])) ∘ Prod.fst) =
      fun placed : List Char × Nat => !placed.1.isEmpty := by
    funext placed
    cases eq : placed.1 <;> simp [eq]
  rw [placedSegments, segmentTokens, ← map_fst_placedTokens, ← map_fst_splitKind, List.filter_map,
    nonempty]

theorem isPrivate_kindOfText (s : String) :
    (kindOfText s).isPrivate = true ↔ (tokens s)[0]? = some ['m'] := by
  rw [kindOfText, ← map_fst_placedTokens]
  cases placedTokens s with
  | nil => simp [splitKind, KeyKind.isPrivate]
  | cons first rest =>
    rw [splitKind]
    cases eq : KeyKind.ofToken? first.1 with
    | none =>
      have different : first.1 ≠ ['m'] := by
        intro same
        rw [same] at eq
        exact absurd eq (by decide)
      simp [different, KeyKind.isPrivate]
    | some kind =>
      rw [KeyKind.ofToken?_eq_some_iff] at eq
      cases kind <;> simp [eq, KeyKind.symbol, KeyKind.isPrivate]

/-- The segments that are read are those that the tokens spell, one for each. -/
theorem value_readSegments_eq_ok_iff {text : String} {ts : List (List Char × Nat)}
    {segments : List Segment} :
    (readSegments text ts).value = .ok segments ↔
      List.Forall₂ Segment.Spells segments (ts.map Prod.fst) := by
  have one (s : Segment) (placed : List Char × Nat) :
      (Segment.ofToken placed.1).mapError
          (Fault.malformed (String.ofList placed.1) placed.2) = .ok s ↔
        Segment.Spells s placed.1 := mapError_eq_ok_iff.trans Segment.ofToken_eq_ok_iff
  rw [value_readSegments, mapM_eq_ok_iff, List.forall₂_map_right_iff]
  simp only [one]

/-- What a text has to be to be read as the path `p`. -/
theorem value_parse_eq_ok_iff {s : String} {p : Path} :
    (parse s).value = .ok p ↔
      List.Forall₂ Segment.Spells p.segments (segmentTokens s) ∧
        (p.isPrivate = true ↔ (tokens s)[0]? = some ['m']) := by
  have kinds : kindOfText s = p.kind ↔ (p.isPrivate = true ↔ (tokens s)[0]? = some ['m']) := by
    rw [← isPrivate_kindOfText, isPrivate]
    cases kindOfText s <;> cases p.kind <;> simp [KeyKind.isPrivate]
  rw [value_parse, ← kinds, ← map_fst_placedSegments]
  constructor
  · intro eq
    obtain ⟨segments, read, rfl⟩ := map_eq_ok_iff.mp eq
    exact ⟨value_readSegments_eq_ok_iff.mp read, rfl⟩
  · rintro ⟨spelled, kind⟩
    have read : (readSegments s (placedSegments s)).value = .ok p.segments :=
      value_readSegments_eq_ok_iff.mpr spelled
    exact map_eq_ok_iff.mpr ⟨p.segments, read, by rw [kind]⟩

theorem spells_filter_iff {ts : List (List Char)} :
    (∀ token ∈ ts.filter (· ≠ []), ∃ s, Segment.Spells s token) ↔
      ∀ token ∈ ts, token = [] ∨ ∃ s, Segment.Spells s token := by
  constructor
  · intro spelled token member
    by_cases empty : token = []
    · exact Or.inl empty
    · exact Or.inr (spelled token (List.mem_filter.mpr ⟨member, by simpa using empty⟩))
  · intro all token member
    obtain ⟨inside, nonempty⟩ := List.mem_filter.mp member
    exact (all token inside).resolve_left (by simpa using nonempty)

/-- Only the first token may be more than an empty one or a segment. -/
theorem forall_allowed_cons_iff {first : List Char} {rest : List (List Char)} :
    (∀ i token, (first :: rest)[i]? = some token → Allowed i token) ↔
      Allowed 0 first ∧ ∀ token ∈ rest, token = [] ∨ ∃ s, Segment.Spells s token := by
  constructor
  · intro all
    refine ⟨all 0 first rfl, ?_⟩
    intro token member
    obtain ⟨i, eq⟩ := List.mem_iff_getElem?.mp member
    rcases all (i + 1) token eq with empty | ⟨zero, -⟩ | spells
    · exact Or.inl empty
    · omega
    · exact Or.inr spells
  · rintro ⟨front, later⟩ i token eq
    cases i with
    | zero =>
      have same : first = token := Option.some.inj eq
      exact same ▸ front
    | succ i =>
      rcases later token (List.mem_iff_getElem?.mpr ⟨i, eq⟩) with empty | spells
      · exact Or.inl empty
      · exact Or.inr (Or.inr spells)

theorem spells_dropKind_iff {ts : List (List Char)} :
    (∀ token ∈ (dropKind ts).filter (· ≠ []), ∃ s, Segment.Spells s token) ↔
      ∀ i token, ts[i]? = some token → Allowed i token := by
  cases ts with
  | nil => simp [dropKind]
  | cons first rest =>
    rw [spells_filter_iff, forall_allowed_cons_iff, dropKind]
    by_cases letter : first = ['m'] ∨ first = ['M']
    · have front : Allowed 0 first := Or.inr (Or.inl ⟨rfl, letter⟩)
      simp [letter, front]
    · have front : Allowed 0 first ↔ first = [] ∨ ∃ s, Segment.Spells s first := by
        simp [Allowed, letter]
      rw [if_neg letter, List.forall_mem_cons, front]

/-- A text is a path when each of its tokens may stand where it does. -/
theorem exists_value_parse_iff {s : String} :
    (∃ p, (parse s).value = .ok p) ↔
      ∀ i token, (tokens s)[i]? = some token → Allowed i token := by
  rw [← spells_dropKind_iff, ← exists_forall₂_iff]
  constructor
  · rintro ⟨p, read⟩
    exact ⟨p.segments, (value_parse_eq_ok_iff.mp read).1⟩
  · rintro ⟨segments, spelled⟩
    let p : Path := ⟨.ofFlag ((tokens s)[0]? = some ['m']), segments⟩
    have kind : p.isPrivate = true ↔ (tokens s)[0]? = some ['m'] := by simp [p, isPrivate]
    exact ⟨p, value_parse_eq_ok_iff.mpr ⟨spelled, kind⟩⟩

/-- Reading accepts exactly the texts whose tokens may stand where they do, and gives the path
that the tokens spell. -/
theorem parse_accepts_exactly (s : String) :
    ((∃ p, (parse s).value = .ok p) ↔
      ∀ i token, (tokens s)[i]? = some token → Allowed i token) ∧
    ∀ p, (parse s).value = .ok p ↔
      List.Forall₂ Segment.Spells p.segments (segmentTokens s) ∧
        (p.isPrivate = true ↔ (tokens s)[0]? = some ['m']) :=
  ⟨exists_value_parse_iff, fun _ => value_parse_eq_ok_iff⟩

end Path

end KeyPath
