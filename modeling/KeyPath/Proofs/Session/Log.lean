import KeyPath.Proofs.Purpose.Reading
import KeyPath.Proofs.Session.Traceless

/-!
# What is logged

A log line is a record's level and message.  Reading a path logs one line whatever the result is;
reading a segment logs a refusal alone, and so does reading a purpose when the text is neither a
name nor a segment.  A session logs the lines of its steps in turn, and only steps that read a text
or packed words log anything.
-/

namespace KeyPath

open Text

/-- What the log shows of a record. -/
structure Line where
  level : Level
  message : String
deriving DecidableEq, Repr

namespace Line

def parsed (p : Path) : Line := ⟨.trace, "parsed derivation path " ++ p.text⟩

def unpacked (p : Path) : Line := ⟨.trace, "deserialized derivation path " ++ p.text⟩

/-- The whole text of a path, and where and why it is refused. -/
def refusedPath (s : String) (position : Nat) (reason : TokenFault) : Line :=
  ⟨.debug, "rejected derivation path `" ++ s ++ "` at byte " ++ Decimal.text position ++ ": " ++
    reason.message⟩

def refusedSegment (token : String) (reason : TokenFault) : Line :=
  ⟨.debug, "rejected derivation segment `" ++ token ++ "`: " ++ reason.message⟩

end Line

def Record.line (record : Record) : Line := ⟨record.level, record.message⟩

namespace Logged

variable {α β : Type}

def lines (x : Logged α) : List Line := x.records.map Record.line

@[simp] theorem lines_pure (a : α) : (pure a : Logged α).lines = [] := rfl

@[simp] theorem lines_bind (x : Logged α) (f : α → Logged β) :
    (x >>= f).lines = x.lines ++ (f x.value).lines := List.map_append

end Logged

/-- Reading the path `s` gives one of these results with these lines. -/
inductive Path.Reports (s : String) : Except Fault Path → List Line → Prop where
  | parsed (p : Path) : Reports s (.ok p) [.parsed p]
  | refused (token : String) (position : Nat) (reason : TokenFault) :
      Reports s (.error (.malformed token position reason)) [.refusedPath s position reason]

/-- Reading a segment with this trimmed token gives one of these results with these lines. -/
inductive Segment.Reports (token : String) : Except Fault Segment → List Line → Prop where
  | accepted (segment : Segment) : Reports token (.ok segment) []
  | refused (position : Nat) (reason : TokenFault) :
      Reports token (.error (.malformed token position reason)) [.refusedSegment token reason]

namespace Path

/-- The tokens before the first bad one report nothing, and those after it are not read. -/
theorem readSegments_reports (s : String) (ts : List (List Char × Nat)) :
    (∃ list, (readSegments s ts).value = .ok list ∧ (readSegments s ts).records = []) ∨
      ∃ token position reason,
        (readSegments s ts).value = .error (.malformed token position reason) ∧
          (readSegments s ts).records = [.rejectedPath s position reason] := by
  induction ts with
  | nil => exact Or.inl ⟨[], rfl, rfl⟩
  | cons placed ts ih =>
    rw [value_readSegments_cons, records_readSegments_cons]
    cases Segment.ofToken placed.1 with
    | error reason => exact Or.inr ⟨_, _, reason, rfl, rfl⟩
    | ok segment =>
      rcases ih with ⟨list, read, silent⟩ | ⟨token, position, reason, refused, reported⟩
      · exact Or.inl ⟨segment :: list, by rw [read]; rfl, silent⟩
      · exact Or.inr ⟨token, position, reason, by rw [refused]; rfl, reported⟩

theorem parse_reports (s : String) : Reports s (parse s).value (parse s).lines := by
  rw [Logged.lines, records_parse, value_parse]
  rcases readSegments_reports s (placedSegments s) with
    ⟨list, read, silent⟩ | ⟨token, position, reason, refused, reported⟩
  · rw [read, silent]
    exact .parsed _
  · rw [refused, reported]
    exact .refused token position reason

/-- A written path is logged as what was read. -/
theorem lines_parse_text (p : Path) : (parse p.text).lines = [.parsed p] := by
  have reports := parse_reports p.text
  rw [value_parse_text] at reports
  generalize (parse p.text).lines = lines at reports
  cases reports
  rfl

theorem lines_unpack (words : List Int32) : (unpack words).lines = [.unpacked (unpack words).value] :=
  rfl

end Path

theorem Segment.parse_reports (s : String) :
    Reports (String.ofList (trim s.toList)) (parse s).value (parse s).lines := by
  rw [Logged.lines, records_parse, value_parse]
  cases ofToken (trim s.toList) with
  | ok segment => exact .accepted segment
  | error reason => exact .refused _ reason

namespace Purpose

/-- A name is looked up in silence, and any other text is read as a segment. -/
theorem lines_parse (s : String) :
    (parse s).lines =
      match ofName? (folded s) with
      | some _ => []
      | none => (Segment.parse (folded s)).lines := by
  simp only [parse, folded]
  cases ofName? (String.ofList (lowerCase (trim s.toList))) with
  | some u => exact Logged.lines_pure _
  | none =>
    rw [Logged.lines_bind]
    cases (Segment.parse (String.ofList (lowerCase (trim s.toList)))).value.toOption.bind
        ofSegment? with
    | some u => rw [Logged.lines_pure, List.append_nil]
    | none => rw [Logged.lines_pure, List.append_nil]

/-- A purpose that is not found is logged at most once, and a segment of no purpose not at all. -/
theorem parse_reports (s : String) :
    (parse s).lines.length ≤ 1 ∧
      ((parse s).lines ≠ [] ↔ (∀ u : Purpose, u.name ≠ folded s) ∧
        ∀ segment, (Segment.parse (folded s)).value ≠ .ok segment) := by
  rw [lines_parse, ← ofName?_eq_none_iff]
  cases ofName? (folded s) with
  | some u => simp
  | none =>
    have reports := Segment.parse_reports (folded s)
    generalize (Segment.parse (folded s)).value = value at reports
    generalize (Segment.parse (folded s)).lines = lines at reports
    cases reports <;> simp

end Purpose

namespace Session

variable {kept : List Path}

/-- The lines of a step that gives this reply. -/
def Step.lines : Step → Reply → List Line
  | .build (.text s), _ => (Path.parse s).lines
  | .build (.purposeText s), _ => (Purpose.parse s).lines
  | .build (.packed words), _ => [.unpacked (Path.ofSegments (words.map Segment.ofPacked))]
  | .derive _ .reload, .path p => [.unpacked p]
  | .derive _ .reparse, .path p => [.parsed p]
  | _, _ => []

theorem apply_reload (p : Path) :
    (Derivation.reload.apply kept p).value = .ok (Path.ofSegments p.segments) ∧
      (Derivation.reload.apply kept p).lines = [.unpacked (Path.ofSegments p.segments)] := by
  simp [Derivation.apply, Path.lines_unpack, Path.unpack_pack]

theorem apply_reparse (p : Path) :
    (Derivation.reparse.apply kept p).value = .ok p ∧
      (Derivation.reparse.apply kept p).lines = [.parsed p] := by
  simp [Derivation.apply, Path.lines_parse_text, Except.mapError]

theorem lines_build (source : Source) (reply : Reply) :
    source.build.lines = (Step.build source).lines reply := by
  cases source <;> simp [Source.build, Step.lines, Path.lines_unpack, Path.value_unpack]

/-- What a derivation logs follows from the path that it makes. -/
theorem lines_apply (p : Path) (on : Option Nat) (derivation : Derivation) :
    (derivation.apply kept p).lines =
      (Step.derive on derivation).lines
        (Outcome.ofResult (derivation.apply kept p).value).reply := by
  cases derivation with
  | reload => rw [(apply_reload p).1, (apply_reload p).2]; rfl
  | reparse => rw [(apply_reparse p).1, (apply_reparse p).2]; rfl
  | append other => simp only [Derivation.apply]; split <;> rfl
  | json => simp only [Derivation.apply]; split <;> rfl
  | _ => rfl

/-- What a step logs follows from its reply. -/
theorem lines_perform (kept : List Path) (step : Step) :
    (step.perform kept).lines = step.lines (step.perform kept).value.reply := by
  cases step with
  | build source =>
    simp only [Step.perform, Logged.lines_bind, Logged.lines_pure, List.append_nil]
    exact lines_build source _
  | derive on derivation =>
    cases receiver : receiver? kept on with
    | none => simp only [Step.perform, receiver]; cases derivation <;> rfl
    | some p =>
      simp only [Step.perform, receiver, Logged.lines_bind, Logged.lines_pure, List.append_nil]
      exact lines_apply p on derivation
  | ancestors on includeSelf =>
    cases receiver : receiver? kept on <;> simp only [Step.perform, receiver] <;> rfl
  | ask on query =>
    cases receiver : receiver? kept on <;> simp only [Step.perform, receiver] <;> rfl

/-- A run logs the lines of its steps in turn. -/
theorem lines_run (kept : List Path) (steps : List Step) :
    (run kept steps).lines = (List.zipWith Step.lines steps (run kept steps).value.1).flatten := by
  induction steps generalizing kept with
  | nil => rfl
  | cons step rest ih =>
    rw [Logged.lines, records_run_cons, List.map_append, run_cons, List.zipWith_cons_cons,
      List.flatten_cons, ← ih, ← lines_perform]
    rfl

/-- A kept path is packed or written and read again without fail. -/
theorem exists_reply_reread {on : Option Nat} {derivation : Derivation}
    (rereads : derivation = .reload ∨ derivation = .reparse) (receives : Receives kept.length on) :
    ∃ p, ((Step.derive on derivation).perform kept).value.reply = .path p := by
  obtain ⟨p, receiver⟩ := exists_receiver?_eq_some receives
  simp only [Step.perform, receiver, Logged.value_bind, Logged.value_pure]
  rcases rereads with rfl | rfl
  · exact ⟨_, by rw [(apply_reload p).1]; rfl⟩
  · exact ⟨_, by rw [(apply_reparse p).1]; rfl⟩

/-- Every reading logs what it gives.  A session logs in turn what its steps log for their replies,
and the reading of a kept path, packed or written, always gives a path. -/
theorem log_matches_outcomes :
    (∀ s, Path.Reports s (Path.parse s).value (Path.parse s).lines) ∧
    (∀ s, Segment.Reports (String.ofList (trim s.toList)) (Segment.parse s).value
      (Segment.parse s).lines) ∧
    (∀ s, (Purpose.parse s).lines.length ≤ 1 ∧
      ((Purpose.parse s).lines ≠ [] ↔ (∀ u : Purpose, u.name ≠ Purpose.folded s) ∧
        ∀ segment, (Segment.parse (Purpose.folded s)).value ≠ .ok segment)) ∧
    (∀ steps, (start steps).value.1.length = steps.length ∧
      (start steps).lines = (List.zipWith Step.lines steps (start steps).value.1).flatten) ∧
    ∀ first on derivation rest, derivation = .reload ∨ derivation = .reparse →
      Receives (start first).value.2.length on →
        ∃ p, (start (first ++ .derive on derivation :: rest)).value.1[first.length]? =
          some (.path p) := by
  refine ⟨Path.parse_reports, Segment.parse_reports, Purpose.parse_reports, ?_, ?_⟩
  · intro steps
    exact ⟨length_replies [] steps, lines_run [] steps⟩
  · intro first on derivation rest rereads receives
    obtain ⟨p, reply⟩ := exists_reply_reread rereads receives
    exact ⟨p, by rw [start, getElem?_replies]; exact congrArg some reply⟩

/-- Two tokens of the text are bad and one is logged; the purpose is refused in lower case. -/
theorem log_matches_outcomes_rereading :
    (start ([.build (.text "m/1/ x/+2"), .build (.purposeText " BIP7"), .build (.packed [-1])] ++
        .derive none .reparse :: [.derive (some 0) .reload])).lines =
      [⟨.debug, "rejected derivation path `m/1/ x/+2` at byte 5: the token contains characters " ++
          "other than decimal digits and a single trailing hardened marker (`H`, `h` or `\x27`)"⟩,
        ⟨.debug, "rejected derivation segment `bip7`: the token contains characters " ++
          "other than decimal digits and a single trailing hardened marker (`H`, `h` or `\x27`)"⟩,
        ⟨.trace, "deserialized derivation path M/2147483647H"⟩,
        ⟨.trace, "parsed derivation path M/2147483647H"⟩,
        ⟨.trace, "deserialized derivation path M/2147483647H"⟩] ∧
    Receives 1 none ∧
      ∃ p, (start ([.build (.text "m/1/ x/+2"), .build (.purposeText " BIP7"),
          .build (.packed [-1])] ++
            .derive none .reparse :: [.derive (some 0) .reload])).value.1[3]? = some (.path p) := by
  have kept : (start [.build (.text "m/1/ x/+2"), .build (.purposeText " BIP7"),
      .build (.packed [-1])]).value.2 = [⟨.pub, [⟨0xFFFFFFFF⟩]⟩] := by
    decide +kernel
  have receives : Receives 1 none := Nat.zero_lt_one
  refine ⟨by decide +kernel, receives, ?_⟩
  apply log_matches_outcomes.2.2.2.2 _ none .reparse _ (.inr rfl)
  rw [kept]
  exact receives

end Session

end KeyPath
