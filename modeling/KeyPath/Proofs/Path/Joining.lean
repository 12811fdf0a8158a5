import KeyPath.Proofs.Path.Language

/-!
# Reading texts joined by a slash

A slash always ends a piece, so what is read from a text before a slash does not depend on what
comes after it.  What comes after it is read as it would be behind a slash alone, with every place
moved by the bytes before.  The kind of keys comes from the first text, and of two faults the one
in the first text is reported.
-/

namespace KeyPath

/-- The same fault in a text that stands `bytes` bytes further on. -/
def Fault.shift (bytes : Nat) : Fault → Fault
  | .malformed token position reason => .malformed token (position + bytes) reason
  | .invalidIndex index => .invalidIndex index
  | .outOfBounds index len => .outOfBounds index len

namespace Path

open Text

/-- The tokens of a text that follows a slash at the beginning of the whole text. -/
def laterTokens (b : String) : List (List Char × Nat) :=
  (locate '/'.utf8Size '/'.utf8Size (pieces '/' b.toList)).map Piece.placed

theorem splitKind_append {ts : List (List Char × Nat)} (nonempty : ts ≠ [])
    (us : List (List Char × Nat)) :
    splitKind (ts ++ us) = ((splitKind ts).1, (splitKind ts).2 ++ us) := by
  cases ts with
  | nil => exact absurd rfl nonempty
  | cons first rest =>
    rw [List.cons_append, splitKind, splitKind]
    cases KeyKind.ofToken? first.1 with
    | none => rfl
    | some kind => rfl

theorem placedTokens_ne_nil (s : String) : placedTokens s ≠ [] := by
  rw [placedTokens_eq, ne_eq, List.map_eq_nil_iff]
  intro empty
  have raws := map_raw_locatedPieces '/' s.toList
  rw [empty] at raws
  exact pieces_ne_nil '/' s.toList raws.symm

theorem placedTokens_joined (a b : String) :
    placedTokens (a ++ "/" ++ b) =
      placedTokens a ++ (laterTokens b).map (Text.shift a.utf8ByteSize) := by
  have chars : (a ++ "/" ++ b).toList = a.toList ++ '/' :: b.toList := by simp
  have moved : Piece.placed ∘ Piece.shift a.utf8ByteSize =
      Text.shift a.utf8ByteSize ∘ Piece.placed := funext (Piece.placed_shift a.utf8ByteSize)
  rw [placedTokens_eq, placedTokens_eq, chars, locatedPieces_append_separator, byteCount_toList,
    List.map_append, List.map_map, moved, laterTokens, List.map_map]

theorem placedTokens_slash (b : String) : placedTokens ("/" ++ b) = ([], 0) :: laterTokens b := by
  have chars : ("/" ++ b).toList = '/' :: b.toList := by simp
  have start : 0 + byteCount [] + '/'.utf8Size = '/'.utf8Size := by simp
  rw [placedTokens_eq, chars, locatedPieces, pieces_cons_separator, locate, start, laterTokens]
  rfl

theorem kindOfText_joined (a b : String) : kindOfText (a ++ "/" ++ b) = kindOfText a := by
  rw [kindOfText, kindOfText, placedTokens_joined, splitKind_append (placedTokens_ne_nil a)]

theorem placedSegments_slash (b : String) :
    placedSegments ("/" ++ b) = (laterTokens b).filter fun placed => !placed.1.isEmpty := by
  rw [placedSegments, placedTokens_slash]
  rfl

theorem placedSegments_joined (a b : String) :
    placedSegments (a ++ "/" ++ b) =
      placedSegments a ++ (placedSegments ("/" ++ b)).map (Text.shift a.utf8ByteSize) := by
  rw [placedSegments, placedTokens_joined, splitKind_append (placedTokens_ne_nil a),
    List.filter_append, placedSegments_slash, List.filter_map]
  rfl

/-- The text only goes into the records. -/
theorem value_readSegments_shift (text other : String) (bytes : Nat) (ts : List (List Char × Nat)) :
    (readSegments text (ts.map (Text.shift bytes))).value =
      (readSegments other ts).value.mapError (Fault.shift bytes) := by
  induction ts with
  | nil => rfl
  | cons placed ts ih =>
    rw [List.map_cons, value_readSegments_cons, value_readSegments_cons, Text.shift]
    cases Segment.ofToken placed.1 with
    | error reason => rfl
    | ok s =>
      simp only [ih]
      cases (readSegments other ts).value with
      | error fault => rfl
      | ok segments => rfl

theorem value_readSegments_append (text other : String) (ts us : List (List Char × Nat)) :
    (readSegments text (ts ++ us)).value = do
      let front ← (readSegments other ts).value
      let back ← (readSegments text us).value
      return front ++ back := by
  rw [value_readSegments, value_readSegments, value_readSegments, List.mapM_append]

/-- What is read from two texts with a slash between them. -/
theorem value_parse_joined (a b : String) :
    (parse (a ++ "/" ++ b)).value = do
      let p ← (parse a).value
      let q ← (parse ("/" ++ b)).value.mapError (Fault.shift a.utf8ByteSize)
      return p.append q := by
  rw [value_parse, value_parse a, value_parse ("/" ++ b), kindOfText_joined, placedSegments_joined,
    value_readSegments_append _ a, value_readSegments_shift _ ("/" ++ b)]
  cases (readSegments a (placedSegments a)).value with
  | error fault => rfl
  | ok front =>
    cases (readSegments ("/" ++ b) (placedSegments ("/" ++ b))).value with
    | error fault => rfl
    | ok back => rfl

/-- A fault before the slash stays as it is; with none there, a path after the slash is appended,
and a fault after it is moved by the bytes before. -/
theorem parse_joined (a b : String) :
    (∀ fault, (parse a).value = .error fault →
      (parse (a ++ "/" ++ b)).value = .error fault) ∧
    (∀ p q, (parse a).value = .ok p → (parse ("/" ++ b)).value = .ok q →
      (parse (a ++ "/" ++ b)).value = .ok (p.append q)) ∧
    ∀ p token position reason, (parse a).value = .ok p →
      (parse ("/" ++ b)).value = .error (.malformed token position reason) →
      (parse (a ++ "/" ++ b)).value =
        .error (.malformed token (position + a.utf8ByteSize) reason) := by
  rw [value_parse_joined]
  refine ⟨?_, ?_, ?_⟩
  · intro fault before
    rw [before]
    rfl
  · intro p q before after
    rw [before, after]
    rfl
  · intro p token position reason before after
    rw [before, after]
    rfl

/-- A letter of a kind of keys is one only in front, and places are counted in bytes. -/
theorem parse_joined_instances :
    ((parse "m/\u00e9 1").value = .error (.malformed "\u00e9 1" 2 .invalidDigits) ∧
      (parse ("m/\u00e9 1" ++ "/" ++ "x")).value =
        .error (.malformed "\u00e9 1" 2 .invalidDigits)) ∧
    ((parse "m / 44H").value = .ok ⟨.priv, [⟨0x8000002C⟩]⟩ ∧
      (parse ("/" ++ " 0")).value = .ok ⟨.pub, [⟨0⟩]⟩ ∧
      (parse ("m / 44H" ++ "/" ++ " 0")).value = .ok ⟨.priv, [⟨0x8000002C⟩, ⟨0⟩]⟩) ∧
    (parse "\u3000m").value = .ok ⟨.priv, []⟩ ∧
      (parse ("/" ++ "1/ m")).value = .error (.malformed "m" 4 .invalidDigits) ∧
      (parse ("\u3000m" ++ "/" ++ "1/ m")).value = .error (.malformed "m" 8 .invalidDigits) := by
  refine ⟨⟨by rfl, ?_⟩, ⟨by rfl, by rfl, ?_⟩, by rfl, by rfl, ?_⟩
  · exact (parse_joined "m/\u00e9 1" "x").1 _ (by rfl)
  · exact (parse_joined "m / 44H" " 0").2.1 ⟨.priv, [⟨0x8000002C⟩]⟩ ⟨.pub, [⟨0⟩]⟩ (by rfl) (by rfl)
  · exact (parse_joined "\u3000m" "1/ m").2.2 ⟨.priv, []⟩ "m" 4 .invalidDigits (by rfl) (by rfl)

end Path

end KeyPath
