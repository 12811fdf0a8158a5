import KeyPath.Proofs.Path.Language
import KeyPath.Proofs.Segment.Written

/-!
# Reading written paths

A path that was written without a sign, and with blanks at most to fill its numbers, is read back
as it was: with its segments and its kind.  The pieces of the written path are the letter of its
kind and its written segments, and what trimming leaves of each of these spells the segment.
-/

namespace KeyPath.Path

open Text

theorem format_eq_opened (layout : Layout) (p : Path) :
    p.format layout =
      [p.kind.symbol] ++ opened '/' (p.segments.map (Segment.format layout)) := by
  rw [format, formatSegments, opened, List.flatMap_map]
  rfl

theorem pieces_format {layout : Layout} (filled : Segment.BlankFilled layout) (p : Path) :
    pieces '/' (p.format layout) =
      [p.kind.symbol] :: p.segments.map (Segment.format layout) := by
  have symbol : '/' ∉ [p.kind.symbol] := by cases p.kind <;> decide
  have segments : ∀ other ∈ p.segments.map (Segment.format layout), '/' ∉ other := by
    intro other member
    obtain ⟨s, -, rfl⟩ := List.mem_map.mp member
    exact Segment.slash_notMem_format filled s
  rw [format_eq_opened, pieces_append_opened '/' symbol segments]

theorem tokens_format {layout : Layout} (filled : Segment.BlankFilled layout) (p : Path) :
    tokens (String.ofList (p.format layout)) =
      [p.kind.symbol] :: p.segments.map fun s => trim (s.format layout) := by
  have symbol : trim [p.kind.symbol] = [p.kind.symbol] := by cases p.kind <;> decide
  rw [tokens, String.toList_ofList, pieces_format filled, List.map_cons, symbol, List.map_map]
  rfl

theorem segmentTokens_format {layout : Layout} (filled : Segment.BlankFilled layout) (p : Path) :
    segmentTokens (String.ofList (p.format layout)) =
      p.segments.map fun s => trim (s.format layout) := by
  have letter : [p.kind.symbol] = ['m'] ∨ [p.kind.symbol] = ['M'] := by cases p.kind <;> decide
  rw [segmentTokens, tokens_format filled, dropKind, if_pos letter, List.filter_eq_self]
  intro token member
  obtain ⟨s, -, rfl⟩ := List.mem_map.mp member
  simpa using (Segment.spells_trim_format filled s).ne_nil

/-- A path is read back from the text that a layout with blanks makes of it. -/
theorem value_parse_format {layout : Layout} (filled : Segment.BlankFilled layout) (p : Path) :
    (parse (String.ofList (p.format layout))).value = .ok p := by
  rw [value_parse_eq_ok_iff, segmentTokens_format filled, tokens_format filled]
  constructor
  · rw [List.forall₂_map_right_iff, List.forall₂_same]
    intro s _
    exact Segment.spells_trim_format filled s
  · rw [isPrivate]
    cases p.kind <;> simp [KeyKind.isPrivate, KeyKind.symbol]

@[simp] theorem value_parse_text (p : Path) : (parse p.text).value = .ok p :=
  value_parse_format Segment.blankFilled_plain p

@[simp] theorem value_parse_otherText (p : Path) : (parse p.otherText).value = .ok p :=
  value_parse_format Segment.blankFilled_other p

/-- Reading gives a path back from its text under every format specification that has no plus sign
and fills with blanks. -/
theorem parse_render (p : Path) (spec : FormatSpec) (textual : spec.structural = false)
    (unsigned : spec.layout.sign ≠ some .plus) (blank : isBlank spec.layout.fill = true) :
    (parse (p.render spec)).value = .ok p := by
  have text : p.render spec = String.ofList (p.format spec.layout) := by
    rw [render, textual]
    rfl
  rw [text]
  exact value_parse_format ⟨unsigned, blank⟩ p

/-- An ideographic space fills both sides of the digits of the largest index. -/
theorem parse_render_centred :
    isBlank '\u3000' = true ∧
      (parse (Path.render
        ⟨{ fill := '\u3000', align := some .centre, alternate := true, width := 13 }, false⟩
        ⟨.priv, [⟨0xFFFFFFFF⟩, ⟨44⟩]⟩)).value = .ok ⟨.priv, [⟨0xFFFFFFFF⟩, ⟨44⟩]⟩ :=
  ⟨by decide, parse_render _ _ rfl (by decide) (by decide)⟩

end KeyPath.Path
