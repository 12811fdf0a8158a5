import KeyPath.Proofs.Session.Refinement

/-!
# Steps that leave no trace

A question keeps no path, and neither does a step that fails, however much of a text was read
before it was refused.  So such a step can be taken out of a session: the other steps answer as
before, from the same receivers, and the same paths are kept in the end.  Steps whose numbers are
those of kept paths fail only for a refused text or a position past the end of a path.
-/

namespace KeyPath.Session

variable {kept : List Path} {step : Step} {failure : Failure}

theorem failure?_eq_some_iff {reply : Reply} :
    reply.failure? = some failure ↔ reply = .failed failure := by
  cases reply <;> simp [Reply.failure?]

theorem made_ofResult_of_failed {result : Except Failure Path}
    (failed : (Outcome.ofResult result).reply = .failed failure) :
    (Outcome.ofResult result).made = [] := by
  rw [Outcome.made_ofResult, Outcome.reply_ofResult_eq_failed_iff.mp failed]
  rfl

/-- A question makes no path. -/
theorem made_ask (on : Option Nat) (query : Query) :
    ((Step.ask on query).perform kept).value.made = [] := by
  cases receiver : receiver? kept on <;> simp only [Step.perform, receiver] <;> rfl

/-- A step that fails makes no path. -/
theorem made_of_failed (failed : (step.perform kept).value.reply = .failed failure) :
    (step.perform kept).value.made = [] := by
  cases step with
  | build source => exact made_ofResult_of_failed failed
  | derive on derivation =>
    cases receiver : receiver? kept on with
    | none => simp only [Step.perform, receiver]; rfl
    | some p =>
      simp only [Step.perform, receiver] at failed ⊢
      exact made_ofResult_of_failed failed
  | ancestors on includeSelf =>
    cases receiver : receiver? kept on with
    | none => simp only [Step.perform, receiver]; rfl
    | some p => simp [Step.perform, receiver] at failed
  | ask on query => exact made_ask on query

/-- The reply to a step in the middle of a session. -/
theorem getElem?_replies (kept : List Path) (before : List Step) (step : Step)
    (after : List Step) :
    (run kept (before ++ step :: after)).value.1[before.length]? =
      some (step.perform (run kept before).value.2).value.reply := by
  rw [run_append, ← length_replies kept before, List.getElem?_append_right (Nat.le_refl _),
    Nat.sub_self, run_cons]
  rfl

/-- A step that makes nothing only adds its reply to those of the others. -/
theorem run_without {before : List Step}
    (silent : (step.perform (run kept before).value.2).value.made = []) (after : List Step) :
    (run kept (before ++ after)).value.1 =
        (run kept (before ++ step :: after)).value.1.eraseIdx before.length ∧
      (run kept (before ++ after)).value.2 = (run kept (before ++ step :: after)).value.2 := by
  rw [run_append, run_append, run_cons, silent, List.append_nil, ← length_replies kept before,
    List.eraseIdx_append_of_length_le (Nat.le_refl _), Nat.sub_self]
  exact ⟨rfl, rfl⟩

def Query.Refers (count : Nat) : Query → Prop
  | .startsWith other => other < count
  | .comparison other => other < count
  | _ => True

/-- The step uses numbers of the first `count` paths only. -/
def Step.Refers (count : Nat) : Step → Prop
  | .build _ => True
  | .derive on derivation => Receives count on ∧ derivation.Refers count
  | .ancestors on _ => Receives count on
  | .ask on query => Receives count on ∧ query.Refers count

/-- Why a step fails whose numbers are those of kept paths. -/
inductive Step.FailsFor (kept : List Path) : Step → Failure → Prop where
  | text {s : String} {fault : Fault} (refused : (Path.parse s).value = .error fault) :
      FailsFor kept (.build (.text s)) (.fault fault)
  | purposeText {s : String} {unknown : UnknownPurpose}
      (refused : (Purpose.parse s).value = .error unknown) :
      FailsFor kept (.build (.purposeText s)) (.unknownPurpose unknown)
  | segment {on : Option Nat} {p : Path} {index : Nat} (receiver : receiver? kept on = some p)
      (past : p.length ≤ index) :
      FailsFor kept (.ask on (.segment index)) (.fault (.outOfBounds index p.length))
  | position {on : Option Nat} {p : Path} {index : Nat} (receiver : receiver? kept on = some p)
      (past : p.length ≤ index) : FailsFor kept (.ask on (.at index)) .brokenPromise

theorem build_eq_error_iff {source : Source} :
    source.build.value = .error failure ↔ (Step.build source).FailsFor kept failure := by
  constructor
  · intro failed
    cases source with
    | text s =>
      rw [value_build_text] at failed
      cases read : (Path.parse s).value with
      | ok p => rw [read] at failed; cases failed
      | error fault => rw [read] at failed; cases failed; exact .text read
    | purposeText s =>
      rw [value_build_purposeText] at failed
      cases read : (Purpose.parse s).value with
      | ok u => rw [read] at failed; cases failed
      | error unknown => rw [read] at failed; cases failed; exact .purposeText read
    | _ => cases failed
  · intro fails
    cases fails with
    | text refused => rw [value_build_text, refused]; rfl
    | purposeText refused => rw [value_build_purposeText, refused]; rfl

theorem exists_receiver?_eq_some {on : Option Nat} (receives : Receives kept.length on) :
    ∃ p, receiver? kept on = some p := by
  rw [← List.length_map Path.plain] at receives
  obtain ⟨plain, receiver⟩ := exists_receiver? receives
  rw [← map_plain_receiver?] at receiver
  obtain ⟨p, found, -⟩ := Option.map_eq_some_iff.mp receiver
  exact ⟨p, found⟩

theorem not_failed_of_makesFrom (makes : step.MakesFrom kept.length) :
    (step.perform kept).value.reply ≠ .failed failure := by
  intro failed
  have same := congrArg PlainOutcome.failure (plain_perform kept step)
  rw [failure_perform (by rwa [List.length_map]), Outcome.plain, failed] at same
  cases same

theorem failure?_answer_eq_some_iff {on : Option Nat} {p : Path} {query : Query}
    (receiver : receiver? kept on = some p) (refers : query.Refers kept.length) :
    (query.answer kept p).failure? = some failure ↔
      (Step.ask on query).FailsFor kept failure := by
  rw [failure?_answer]
  constructor
  · intro refused
    cases query with
    | segment index =>
      rw [Plain.refusal?, Path.length_words] at refused
      split at refused
      · cases refused
      · next outside =>
        cases refused
        exact .segment receiver (Nat.le_of_not_lt outside)
    | «at» index =>
      rw [Plain.refusal?, Path.length_words] at refused
      split at refused
      · cases refused
      · next outside =>
        cases refused
        exact .position receiver (Nat.le_of_not_lt outside)
    | startsWith other =>
      have known : other < kept.length := refers
      simp [Plain.refusal?, known] at refused
    | comparison other =>
      have known : other < kept.length := refers
      simp [Plain.refusal?, known] at refused
    | _ => cases refused
  · intro fails
    cases fails with
    | segment same past =>
      obtain rfl := Option.some.inj (receiver.symm.trans same)
      rw [Plain.refusal?, Path.length_words, if_neg (Nat.not_lt_of_le past)]
    | position same past =>
      obtain rfl := Option.some.inj (receiver.symm.trans same)
      rw [Plain.refusal?, Path.length_words, if_neg (Nat.not_lt_of_le past)]

/-- The causes are all there are, and each of them makes the step fail. -/
theorem reply_eq_failed_iff (refers : step.Refers kept.length) :
    (step.perform kept).value.reply = .failed failure ↔ step.FailsFor kept failure := by
  cases step with
  | build source => exact Outcome.reply_ofResult_eq_failed_iff.trans build_eq_error_iff
  | derive on derivation =>
    constructor
    · intro failed
      exact absurd failed (not_failed_of_makesFrom refers)
    · intro fails
      cases fails
  | ancestors on includeSelf =>
    constructor
    · intro failed
      exact absurd failed (not_failed_of_makesFrom refers)
    · intro fails
      cases fails
  | ask on query =>
    obtain ⟨p, receiver⟩ := exists_receiver?_eq_some refers.1
    rw [← failure?_eq_some_iff, ← failure?_answer_eq_some_iff receiver refers.2]
    simp only [Step.perform, receiver]
    rfl

/-- A step that asks or fails can be taken out of its session: the other replies, the receivers of
the later steps and the kept paths stay.  With numbers of kept paths, a step fails exactly for a
refused text or a position past the end. -/
theorem traceless_steps_go (before : List Step) (step : Step) (after : List Step) :
    (((∃ on query, step = .ask on query) ∨
        ∃ failure, (start (before ++ step :: after)).value.1[before.length]? =
          some (.failed failure)) →
      (start (before ++ after)).value.1 =
          (start (before ++ step :: after)).value.1.eraseIdx before.length ∧
        (start (before ++ after)).value.2 = (start (before ++ step :: after)).value.2 ∧
        ∀ n on, receiver? (start (before ++ after.take n)).value.2 on =
          receiver? (start (before ++ step :: after.take n)).value.2 on) ∧
    (step.Refers (start before).value.2.length → ∀ failure,
      (start (before ++ step :: after)).value.1[before.length]? = some (.failed failure) ↔
        step.FailsFor (start before).value.2 failure) := by
  have reply := getElem?_replies [] before step after
  constructor
  · intro traceless
    have silent : (step.perform (run [] before).value.2).value.made = [] := by
      rcases traceless with ⟨on, query, rfl⟩ | ⟨failure, failed⟩
      · exact made_ask on query
      · exact made_of_failed (Option.some.inj (reply.symm.trans failed))
    refine ⟨(run_without silent after).1, (run_without silent after).2, ?_⟩
    intro n on
    rw [start, start, (run_without silent (after.take n)).2]
  · intro refers failure
    rw [start, reply, Option.some.injEq]
    exact reply_eq_failed_iff refers

/-- A path is refused at its second token, and a position is past the end; the steps around them
have the default receiver. -/
theorem traceless_steps_go_refused :
    ((start ([.build (.text "m/1")] ++ .build (.text "m/2/x") ::
          [.derive none (.child ⟨3⟩)])).value.1[1]? =
        some (.failed (.fault (.malformed "x" 4 .invalidDigits))) ∧
      (start ([.build (.text "m/1")] ++ [.derive none (.child ⟨3⟩)])).value.2 =
        (start ([.build (.text "m/1")] ++ .build (.text "m/2/x") ::
          [.derive none (.child ⟨3⟩)])).value.2) ∧
    Step.Refers 1 (.ask none (.at 1)) ∧
      (start ([.build (.text "m/1")] ++ .ask none (.at 1) :: [])).value.1[1]? =
        some (.failed .brokenPromise) := by
  have refused : (start ([.build (.text "m/1")] ++ .build (.text "m/2/x") ::
      [.derive none (.child ⟨3⟩)])).value.1[1]? =
        some (.failed (.fault (.malformed "x" 4 .invalidDigits))) := by
    decide +kernel
  have refers : Step.Refers 1 (.ask none (.at 1)) := ⟨Nat.zero_lt_one, trivial⟩
  have kept : (start [.build (.text "m/1")]).value.2 = [⟨.priv, [⟨1⟩]⟩] := by rfl
  have last : receiver? [⟨.priv, [⟨1⟩]⟩] none = some (Path.mk .priv [⟨1⟩]) := by rfl
  refine ⟨⟨refused, ?_⟩, refers, ?_⟩
  · exact ((traceless_steps_go [.build (.text "m/1")] (.build (.text "m/2/x"))
      [.derive none (.child ⟨3⟩)]).1 (.inr ⟨_, refused⟩)).2.1
  · apply ((traceless_steps_go [.build (.text "m/1")] (.ask none (.at 1)) []).2 _ _).mpr
    · rw [kept]
      exact .position last (Nat.le_refl 1)
    · rw [kept]
      exact refers

end KeyPath.Session
