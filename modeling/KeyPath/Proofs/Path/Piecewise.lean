import KeyPath.Proofs.Path.Language

/-!
# Paths and single segments

There are two readers of segments: one of a text that is a single segment, and one of the pieces of
a path.  They agree.  A text without slashes is read as a path just as it is read as a segment,
faults included, unless it is blank or the letter of a kind of keys; and any text is a path exactly
when each of its other pieces, read alone with the blanks around it, is a segment.
-/

namespace KeyPath.Path

open Text

/-- The raw pieces without a first one that is the letter of a kind of keys. -/
def dropLetter : List (List Char) → List (List Char)
  | [] => []
  | first :: rest => if trim first = ['m'] ∨ trim first = ['M'] then rest else first :: rest

/-- The raw pieces of a text that are not blank and not the letter in front. -/
def segmentRaws (s : String) : List (List Char) :=
  (dropLetter (pieces '/' s.toList)).filter (trim · ≠ [])

example : segmentRaws " m/ 44 H//0 " = [" 44 H".toList, "0 ".toList] := by decide

variable {s : String} {segments : List Segment}

theorem map_trim_dropLetter (raws : List (List Char)) :
    (dropLetter raws).map trim = dropKind (raws.map trim) := by
  cases raws with
  | nil => rfl
  | cons first rest =>
    simp only [dropLetter, List.map_cons, dropKind]
    split <;> rfl

theorem map_trim_segmentRaws (s : String) : (segmentRaws s).map trim = segmentTokens s := by
  simp only [segmentTokens, tokens, ← map_trim_dropLetter, List.filter_map]
  rfl

/-- The segments of a path are those that its raw pieces are read as one by one. -/
theorem forall₂_spells_segmentTokens_iff :
    List.Forall₂ Segment.Spells segments (segmentTokens s) ↔
      List.Forall₂ (fun c raw => (Segment.parse (String.ofList raw)).value = .ok c) segments
        (segmentRaws s) := by
  simp only [← map_trim_segmentRaws, List.forall₂_map_right_iff, Segment.value_parse_eq_ok_iff,
    String.toList_ofList]

theorem exists_segments_eq_iff :
    (∃ p, (parse s).value = .ok p ∧ p.segments = segments) ↔
      List.Forall₂ (fun c raw => (Segment.parse (String.ofList raw)).value = .ok c) segments
        (segmentRaws s) := by
  rw [← forall₂_spells_segmentTokens_iff]
  constructor
  · rintro ⟨p, read, rfl⟩
    exact (value_parse_eq_ok_iff.mp read).1
  · intro spelled
    let p : Path := ⟨kindOfText s, segments⟩
    exact ⟨p, value_parse_eq_ok_iff.mpr ⟨spelled, isPrivate_kindOfText s⟩, rfl⟩

theorem exists_value_parse_iff_segmentRaws :
    (∃ p, (parse s).value = .ok p) ↔
      ∀ raw ∈ segmentRaws s, ∃ c, (Segment.parse (String.ofList raw)).value = .ok c := by
  rw [← exists_forall₂_iff]
  simp only [← exists_segments_eq_iff]
  constructor
  · rintro ⟨p, read⟩
    exact ⟨p.segments, p, read, rfl⟩
  · rintro ⟨segments, p, read, -⟩
    exact ⟨p, read⟩

/-- A single piece is read alone, from the beginning of the text. -/
theorem value_parse_of_notMem (none : '/' ∉ s.toList) (visible : trim s.toList ≠ [])
    (noLetter : ¬ (trim s.toList = ['m'] ∨ trim s.toList = ['M'])) :
    (parse s).value = (Segment.parse s).value.map fun c => ⟨.pub, [c]⟩ := by
  have noKind : KeyKind.ofToken? (trim s.toList) = Option.none := by
    rwa [← isSome_ofToken?_iff, Option.not_isSome_iff_eq_none] at noLetter
  have only : placedTokens s = [(trim s.toList, byteCount (leadingBlanks s.toList))] := by
    rw [placedTokens_eq, locatedPieces, pieces_of_notMem '/' none]
    simp [locate, Piece.placed, Piece.token, Piece.position]
  have split : splitKind (placedTokens s) = (Option.none, placedTokens s) := by
    simp [only, splitKind, noKind]
  have single : placedSegments s = placedTokens s := by
    rw [placedSegments, split, only]
    simp [visible]
  have kind : kindOfText s = .pub := by simp [kindOfText, split]
  rw [value_parse, single, only, kind, value_readSegments_cons, Segment.value_parse]
  cases Segment.ofToken (trim s.toList) <;> rfl

/-- A text without slashes that is not blank and no letter of a kind of keys is the same segment for
both readers, or the same fault.  Any text is a path exactly when each of its raw pieces that is
not blank and no letter in front is a segment, and its segments are these in order. -/
theorem readers_agree :
    (∀ s : String, '/' ∉ s.toList → trim s.toList ≠ [] → trim s.toList ≠ ['m'] →
      trim s.toList ≠ ['M'] →
      (∀ p, (parse s).value = .ok p ↔ ∃ c, (Segment.parse s).value = .ok c ∧ p = ⟨.pub, [c]⟩) ∧
      ∀ fault, (parse s).value = .error fault ↔ (Segment.parse s).value = .error fault) ∧
    ∀ s : String,
      ((∃ p, (parse s).value = .ok p) ↔
        ∀ raw ∈ segmentRaws s, ∃ c, (Segment.parse (String.ofList raw)).value = .ok c) ∧
      ∀ segments, (∃ p, (parse s).value = .ok p ∧ p.segments = segments) ↔
        List.Forall₂ (fun c raw => (Segment.parse (String.ofList raw)).value = .ok c) segments
          (segmentRaws s) := by
  refine ⟨?_, fun s => ⟨exists_value_parse_iff_segmentRaws, fun _ => exists_segments_eq_iff⟩⟩
  intro s none visible noPriv noPub
  have letters : ¬ (trim s.toList = ['m'] ∨ trim s.toList = ['M']) := not_or.mpr ⟨noPriv, noPub⟩
  rw [value_parse_of_notMem none visible letters]
  constructor
  · intro p
    rw [map_eq_ok_iff]
    simp only [eq_comm]
  · intro fault
    exact map_eq_error_iff

/-- Blanks of three bytes stand before the number, and before a mark that has none. -/
theorem readers_agree_wide :
    (parse "\u3000 0012\u2003h").value = .ok ⟨.pub, [⟨0x8000000C⟩]⟩ ∧
      (parse "\u3000\u00a0'").value = .error (.malformed "'" 5 .empty) := by
  constructor
  · have read : (Segment.parse "\u3000 0012\u2003h").value = .ok ⟨0x8000000C⟩ := by rfl
    exact ((readers_agree.1 _ (by decide) (by decide) (by decide) (by decide)).1 _).mpr
      ⟨_, read, rfl⟩
  · have refused : (Segment.parse "\u3000\u00a0'").value = .error (.malformed "'" 5 .empty) := by
      rfl
    exact ((readers_agree.1 _ (by decide) (by decide) (by decide) (by decide)).2 _).mpr refused

end KeyPath.Path
