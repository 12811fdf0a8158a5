import KeyPath.ChildStep
import KeyPath.Proofs.Path.JsonShape
import KeyPath.Proofs.Path.RoundTrip
import KeyPath.Wire.Forms

/-!
# Stored forms of paths

A path can be written as text, JSON, bytes, packed words or child steps and be read again.  All
these forms carry the same segments, so any chain of conversions through them keeps what the path
packs to.  Text and JSON carry the kind of keys too; bytes and packed words forget it, and steps
are given one.
-/

namespace KeyPath.Path

/-- The form that a path is written in and read from. -/
inductive Conversion where
  | text
  /-- The text with the other mark of hardened segments. -/
  | otherText
  | json
  | bytes
  | packed
  /-- Steps have no kind, so the path that is made of them is given one. -/
  | steps (kind : KeyKind)
deriving DecidableEq, Repr

namespace Conversion

/-- The path that is read from what is written for a path, if both go well. -/
def reread? (p : Path) : Conversion → Option Path
  | .text => (parse p.text).value.toOption
  | .otherText => (parse p.otherText).value.toOption
  | .json => ofJsonText? p.toJsonText
  | .bytes => (do Wire.whole (decode (← p.write).bytes)).toOption
  | .packed => some (unpack p.pack).value
  | .steps kind => some (ofSteps kind p.toSteps)

/-- The kind that the conversion gives to a path, if it does not keep the path's own. -/
def kind? : Conversion → Option KeyKind
  | .text => none
  | .otherText => none
  | .json => none
  | .bytes => some .pub
  | .packed => some .pub
  | .steps kind => some kind

/-- The path after all conversions of a chain, if none of them fails. -/
def chain? (p : Path) (chain : List Conversion) : Option Path := chain.foldlM reread? p

/-- The kind that the last conversion gives that gives one, or else the kind before. -/
def kindAfter (kind : KeyKind) (chain : List Conversion) : KeyKind :=
  (chain.filterMap kind?).getLastD kind

end Conversion

variable {p : Path} {bytes : List UInt8}

theorem whole_decode_of_encode (done : p.encode = .ok bytes) :
    Wire.whole (decode bytes) = .ok (ofSegments p.segments) := by
  have read := decode_encode done []
  rw [List.append_nil] at read
  rw [read]
  rfl

theorem unpack_pack (p : Path) : (unpack p.pack).value = ofSegments p.segments := by
  simp [value_unpack, pack, Function.comp_def]

theorem pack_unpack (l : List Int32) : (unpack l).value.pack = l := by
  simp [value_unpack, ofSegments, pack, Function.comp_def]

namespace Conversion

/-- No conversion changes the segments. -/
theorem reread?_eq_some (short : p.length ≤ maxItems) (c : Conversion) :
    c.reread? p = some ⟨c.kind?.getD p.kind, p.segments⟩ := by
  cases c with
  | text => simp only [reread?, value_parse_text]; rfl
  | otherText => simp only [reread?, value_parse_otherText]; rfl
  | json => exact ofJsonText?_toJsonText p
  | bytes =>
    have done : p.encode = .ok _ := if_pos short
    have read := whole_decode_of_encode done
    rw [reread?, write_eq, done]
    exact congrArg Except.toOption read
  | packed => exact congrArg some (unpack_pack p)
  | steps kind => exact congrArg some (ofSteps_toSteps kind p)

theorem kindAfter_cons (kind : KeyKind) (c : Conversion) (chain : List Conversion) :
    kindAfter kind (c :: chain) = kindAfter (c.kind?.getD kind) chain := by
  unfold kindAfter
  cases given : c.kind? with
  | none => rw [List.filterMap_cons_none given]; rfl
  | some next => rw [List.filterMap_cons_some given, List.getLastD_cons]; rfl

theorem chain?_eq_some (short : p.length ≤ maxItems) (chain : List Conversion) :
    chain? p chain = some ⟨kindAfter p.kind chain, p.segments⟩ := by
  induction chain generalizing p with
  | nil => rfl
  | cons c chain ih =>
    rw [chain?, List.foldlM_cons, reread?_eq_some short, kindAfter_cons]
    exact ih short

end Conversion

/-- Words that were unpacked go through every chain of conversions unchanged, and the last
conversion that is not text or JSON decides the kind. -/
theorem stored_forms_agree (l : List Int32) (short : l.length ≤ 65535)
    (chain : List Conversion) :
    ∃ p, Conversion.chain? (unpack l).value chain = some p ∧ p.pack = l ∧
      p.kind = Conversion.kindAfter .pub chain := by
  have bound : (unpack l).value.length ≤ maxItems := by
    simpa [value_unpack, length, ofSegments, maxItems] using short
  exact ⟨_, Conversion.chain?_eq_some bound chain, pack_unpack l, rfl⟩

/-- Words at the ends of their range go through all the forms; the last steps are private. -/
theorem stored_forms_agree_extremes :
    [-1, Int32.minValue, Int32.maxValue, 0].length ≤ 65535 ∧
      ∃ p, Conversion.chain? (unpack [-1, Int32.minValue, Int32.maxValue, 0]).value
          [.text, .bytes, .steps .priv, .json, .packed, .steps .priv, .otherText] = some p ∧
        p.pack = [-1, Int32.minValue, Int32.maxValue, 0] ∧ p.kind = .priv :=
  ⟨by decide, stored_forms_agree _ (by decide) _⟩

end KeyPath.Path
