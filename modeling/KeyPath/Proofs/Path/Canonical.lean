import Mathlib.Data.Set.List
import KeyPath.Proofs.Path.RoundTrip
import KeyPath.Proofs.Segment.Canonical

/-!
# Canonical texts of paths

Reading forgives blanks, stray slashes, zeros in front of an index, three marks and a missing
letter; writing uses none of that freedom.  The written texts are a small language of their own,
and writing what was read normalises a text: a text is left as it is exactly when it is in that
language, and two texts become the same exactly when they stand for the same path.
-/

namespace KeyPath.Path

open Text

/-- The letter of a kind of keys, and canonical segments with a slash before each. -/
def Canonical (text : String) : Prop :=
  ∃ letter tokens, (letter = 'm' ∨ letter = 'M') ∧
    (∀ token ∈ tokens, Segment.CanonicalToken token) ∧
    text.toList = letter :: opened '/' tokens

/-- The text that is written for what is read from a text. -/
def normalise? (text : String) : Option String := (parse text).value.toOption.map Path.text

variable {s t : String} {p q : Path}

theorem text_injective : Function.Injective text := by
  intro p q same
  have read : (parse p.text).value = .ok q := by rw [same, value_parse_text]
  rw [value_parse_text] at read
  exact Except.ok.inj read

theorem letter_iff {letter : Char} :
    letter = 'm' ∨ letter = 'M' ↔ ∃ kind : KeyKind, kind.symbol = letter := by
  constructor
  · rintro (rfl | rfl)
    · exact ⟨.priv, rfl⟩
    · exact ⟨.pub, rfl⟩
  · rintro ⟨kind, rfl⟩
    cases kind with
    | priv => exact Or.inl rfl
    | pub => exact Or.inr rfl

theorem canonicalTokens_iff {tokens : List (List Char)} :
    (∀ token ∈ tokens, Segment.CanonicalToken token) ↔
      ∃ segments : List Segment, segments.map (Segment.format .plain) = tokens := by
  have written : Set.range (List.map (Segment.format .plain)) =
      {ts | ∀ token ∈ ts, token ∈ Set.range (Segment.format .plain)} := Set.range_list_map _
  have each : (∀ token ∈ tokens, Segment.CanonicalToken token) ↔
      tokens ∈ {ts : List (List Char) | ∀ token ∈ ts, token ∈ Set.range (Segment.format .plain)} :=
    forall₂_congr fun _ _ => Segment.canonicalToken_iff
  rw [each, ← written, Set.mem_range]

/-- The canonical texts are the written ones. -/
theorem canonical_iff : Canonical s ↔ ∃ p : Path, p.text = s := by
  constructor
  · rintro ⟨letter, tokens, isLetter, canonical, eq⟩
    obtain ⟨kind, rfl⟩ := letter_iff.mp isLetter
    obtain ⟨segments, rfl⟩ := canonicalTokens_iff.mp canonical
    refine ⟨⟨kind, segments⟩, ?_⟩
    rw [← String.toList_inj, eq, toList_text, format_eq_opened]
    rfl
  · rintro ⟨p, rfl⟩
    refine ⟨p.kind.symbol, p.segments.map (Segment.format .plain), letter_iff.mpr ⟨p.kind, rfl⟩,
      canonicalTokens_iff.mpr ⟨p.segments, rfl⟩, ?_⟩
    rw [toList_text, format_eq_opened]
    rfl

theorem canonical_text (p : Path) : Canonical p.text := canonical_iff.mpr ⟨p, rfl⟩

/-- A text that is read is the written form of what was read exactly when it is canonical. -/
theorem text_eq_iff_canonical (read : (parse s).value = .ok p) : p.text = s ↔ Canonical s := by
  rw [canonical_iff]
  constructor
  · intro same
    exact ⟨p, same⟩
  · rintro ⟨q, rfl⟩
    rw [value_parse_text] at read
    rw [Except.ok.inj read]

theorem normalise?_of_read (read : (parse s).value = .ok p) : normalise? s = some p.text := by
  rw [normalise?, read]
  rfl

theorem normalise?_text (p : Path) : normalise? p.text = some p.text :=
  normalise?_of_read (value_parse_text p)

/-- Normalising again changes nothing, and a text that is refused has no normal form. -/
theorem normalise?_bind_normalise? (s : String) :
    (normalise? s).bind normalise? = normalise? s := by
  cases read : (parse s).value with
  | error fault =>
    rw [normalise?, read]
    rfl
  | ok p => rw [normalise?_of_read read, Option.bind_some, normalise?_text]

theorem normalise?_eq_iff (first : (parse s).value = .ok p) (second : (parse t).value = .ok q) :
    normalise? s = normalise? t ↔ p.segments = q.segments ∧ p.kind = q.kind := by
  rw [normalise?_of_read first, normalise?_of_read second, Option.some.injEq,
    text_injective.eq_iff, Path.mk.injEq, and_comm]

/-- The written texts are the canonical ones, a text that is read is kept by writing exactly when
it is canonical, and writing what was read is a normal form that tells paths apart. -/
theorem canonical_text_exact :
    (∀ s, (∃ p : Path, p.text = s) ↔ Canonical s) ∧
    (∀ s p, (parse s).value = .ok p → (p.text = s ↔ Canonical s) ∧ Canonical p.text) ∧
    (∀ s, (normalise? s).bind normalise? = normalise? s) ∧
    ∀ s t p q, (parse s).value = .ok p → (parse t).value = .ok q →
      (normalise? s = normalise? t ↔ p.segments = q.segments ∧ p.kind = q.kind) := by
  refine ⟨fun s => canonical_iff.symm, ?_, normalise?_bind_normalise?, ?_⟩
  · intro s p read
    exact ⟨text_eq_iff_canonical read, canonical_text p⟩
  · intro s t p q first second
    exact normalise?_eq_iff first second

/-- Two spellings of one path, neither of them canonical, have one normal form. -/
theorem canonical_text_exact_spellings :
    ((parse " m //0044 h/\u30007").value = .ok ⟨.priv, [⟨0x8000002C⟩, ⟨7⟩]⟩ ∧
      (parse "m/44'/07/").value = .ok ⟨.priv, [⟨0x8000002C⟩, ⟨7⟩]⟩) ∧
    ¬ Canonical " m //0044 h/\u30007" ∧
    normalise? " m //0044 h/\u30007" = normalise? "m/44'/07/" := by
  have first : (parse " m //0044 h/\u30007").value = .ok ⟨.priv, [⟨0x8000002C⟩, ⟨7⟩]⟩ := by rfl
  have second : (parse "m/44'/07/").value = .ok ⟨.priv, [⟨0x8000002C⟩, ⟨7⟩]⟩ := by rfl
  refine ⟨⟨first, second⟩, ?_, ?_⟩
  · rw [← (canonical_text_exact.2.1 _ _ first).1]
    decide +kernel
  · exact (canonical_text_exact.2.2.2 _ _ _ _ first second).mpr ⟨rfl, rfl⟩

end KeyPath.Path
