import Mathlib.Data.List.Induction
import KeyPath.Proofs.Text.Cutting
import KeyPath.Text.Scan

/-!
# Placing pieces in one pass

Between two pieces a scan carries the number of bytes of the pieces that are done, each with its
separator, so the next raw piece stands there in the text.  The place that it counts back for a
token is where the token stands, inside the piece.  The tokens and their places are those of the
located pieces.
-/

namespace KeyPath.Text

namespace Piece

variable (piece : Piece)

theorem start_le_position : piece.start ≤ piece.position := Nat.le_add_right _ _

/-- The token ends inside its piece. -/
theorem position_add_byteCount_token_le :
    piece.position + byteCount piece.token ≤ piece.start + byteCount piece.raw := by
  have parts := congrArg byteCount (leadingBlanks_append_trim piece.raw)
  rw [byteCount_append, byteCount_append] at parts
  rw [position, token]
  omega

end Piece

namespace Scan

/-- What holds after the raw pieces `before`. -/
structure After (separator : Char) (before : List (List Char)) (scan : Scan) : Prop where
  offset : scan.offset = byteCount (closed separator before)
  tokens : scan.tokens = (locate separator.utf8Size 0 before).map Piece.placed

/-- What holds when the pass comes to a piece of the text `s`. -/
structure Reaches (s : String) (piece : Piece) (scan : Scan) : Prop where
  start : piece.start = scan.offset
  raw : StandsAt s (String.ofList piece.raw) scan.offset
  /-- Counting back does not go below zero. -/
  counts : byteCount (trimStart piece.raw) ≤ scan.offset + byteCount piece.raw
  position : scan.position piece.raw = piece.position
  atLeast : scan.offset ≤ scan.position piece.raw
  atMost : scan.position piece.raw ≤ scan.offset + byteCount piece.raw
  token : StandsAt s (String.ofList piece.token) (scan.position piece.raw)
  tokenEnd : scan.position piece.raw + byteCount piece.token ≤ scan.offset + byteCount piece.raw

variable {separator : Char} {before : List (List Char)} {scan : Scan}

/-- One more piece keeps what holds after the pieces. -/
theorem After.next (done : After separator before scan) (raw : List Char) :
    After separator (before ++ [raw]) (scan.next separator raw) := by
  constructor
  · simp only [Scan.next, done.offset, closed_append, closed_cons, closed_nil, byteCount_append,
      byteCount_cons, byteCount_nil]
    omega
  · rw [Scan.next, locate_append, List.map_append, ← done.tokens, Nat.zero_add, ← done.offset,
      position_eq]
    rfl

/-- It holds after any pieces. -/
theorem after_run (separator : Char) (raws : List (List Char)) :
    After separator raws (run separator raws) := by
  induction raws using List.reverseRecOn with
  | nil => exact ⟨rfl, rfl⟩
  | append_singleton before raw ih =>
    rw [run, List.foldl_append]
    exact ih.next raw

/-- The tokens of a text and their places are those of its located pieces. -/
theorem tokens_run_pieces (separator : Char) (cs : List Char) :
    (run separator (pieces separator cs)).tokens = (locatedPieces separator cs).map Piece.placed :=
  (after_run separator (pieces separator cs)).tokens

/-- The pass comes to every piece at the byte where the piece begins. -/
theorem reaches_run {s : String} {before after : List Piece} {piece : Piece}
    (eq : locatedPieces separator s.toList = before ++ piece :: after) :
    Reaches s piece (run separator (before.map Piece.raw)) := by
  obtain ⟨text, start⟩ := text_around_piece separator eq
  obtain ⟨front, back, whole, -, size, -⟩ := text_around_token separator eq
  have offset : (run separator (before.map Piece.raw)).offset = piece.start := by
    rw [(after_run separator _).offset, start]
  have position : (run separator (before.map Piece.raw)).position piece.raw = piece.position := by
    rw [position_eq, offset]
  have split := byteCount_trimStart_add piece.raw
  have least := piece.start_le_position
  have tokenEnd := piece.position_add_byteCount_token_le
  constructor
  case start => exact offset.symm
  case raw =>
    rw [offset, start]
    exact standsAt_of_toList_eq text
  case counts => omega
  case position => exact position
  case atLeast => rwa [offset, position]
  case atMost => omega
  case token =>
    rw [position, whole, ← size]
    exact standsAt_append front (String.ofList piece.token) back
  case tokenEnd => rwa [offset, position]

/-- After the whole text the next byte is one separator past its end. -/
theorem offset_run_pieces (separator : Char) (s : String) :
    (run separator (pieces separator s.toList)).offset =
      s.utf8ByteSize + separator.utf8Size := by
  rw [(after_run separator _).offset, closed_pieces, byteCount_append, byteCount_toList]
  rfl

/-- The pass comes to each piece of a text at the byte where the piece stands, and places its token
inside it where the token stands.  It ends one byte past the text, and its tokens are those that are
located.  The raw pieces are the text cut at all its slashes, one more piece than slashes. -/
theorem scan_keeps_places (s : String) :
    (∀ before piece after, locatedPieces '/' s.toList = before ++ piece :: after →
      Reaches s piece (run '/' (before.map Piece.raw))) ∧
    (run '/' (pieces '/' s.toList)).offset = s.utf8ByteSize + 1 ∧
    (run '/' (pieces '/' s.toList)).tokens =
      (locatedPieces '/' s.toList).map (fun piece => (piece.token, piece.position)) ∧
    (locatedPieces '/' s.toList).map Piece.raw = pieces '/' s.toList ∧
    List.intercalate ['/'] (pieces '/' s.toList) = s.toList ∧
    (pieces '/' s.toList).length = s.toList.count '/' + 1 ∧
    ∀ raw ∈ pieces '/' s.toList, '/' ∉ raw :=
  ⟨fun _ _ _ => reaches_run, offset_run_pieces '/' s, tokens_run_pieces '/' _,
    map_raw_locatedPieces '/' _, intercalate_pieces '/' _, length_pieces '/' _,
    fun _ => separator_notMem_of_mem_pieces⟩

/-- The third piece has a blank of three bytes on each side of its token. -/
theorem scan_keeps_places_wide :
    locatedPieces '/' "\u3000m//\u2003 7h\u3000/x".toList =
        [⟨0, ['\u3000', 'm']⟩, ⟨5, []⟩] ++
          ⟨6, ['\u2003', ' ', '7', 'h', '\u3000']⟩ :: [⟨16, ['x']⟩] ∧
      StandsAt "\u3000m//\u2003 7h\u3000/x" "7h" 10 := by
  have cut : locatedPieces '/' "\u3000m//\u2003 7h\u3000/x".toList =
      [⟨0, ['\u3000', 'm']⟩, ⟨5, []⟩] ++
        ⟨6, ['\u2003', ' ', '7', 'h', '\u3000']⟩ :: [⟨16, ['x']⟩] := by decide
  exact ⟨cut, ((scan_keeps_places _).1 _ _ _ cut).token⟩

end Scan

end KeyPath.Text
