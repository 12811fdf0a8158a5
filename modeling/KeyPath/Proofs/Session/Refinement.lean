import KeyPath.Proofs.Path.StoredForms
import KeyPath.Proofs.Session.PlainMachine

/-!
# Sessions refine the plain machine

Each step of a session does to the kept paths what the plain machine does to their pairs, and fails
when it fails; by induction whole sessions do.  The plain machine never fails to make a pair from
pairs that it keeps, and steps only add to what is kept.
-/

namespace KeyPath

namespace Path

theorem plain_extend (p : Path) (list : List Segment) :
    (p.extend list).plain = ⟨p.isPrivate, p.plain.words ++ list.map Segment.word⟩ := by
  simp [plain, isPrivate]

theorem plain_ofSegments (list : List Segment) :
    (ofSegments list).plain = ⟨false, list.map Segment.word⟩ := rfl

theorem plain_ofSteps (kind : KeyKind) (steps : List ChildStep) :
    (ofSteps kind steps).plain = ⟨kind.isPrivate, steps.map ChildStep.word⟩ := by
  simp [plain, ofSteps, isPrivate, Segment.ofStep, Function.comp_def]

theorem plain_parentPath (u : Purpose) :
    u.parentPath.plain = ⟨true, [u.number + 0x80000000]⟩ := by
  cases u <;> rfl

theorem length_words (p : Path) : p.plain.words.length = p.length := List.length_map _

theorem inits_tail_take {α : Type} {l : List α} {n : Nat} (inside : n ≤ l.length) :
    (l.take n).inits.tail = (List.range' 1 n).map l.take := by
  apply List.ext_getElem
  · simp [inside]
  · intro i _ here
    rw [List.length_map, List.length_range'] at here
    simp only [List.getElem_tail, List.getElem_inits, List.getElem_map, List.getElem_range',
      List.take_take]
    congr 1
    omega

/-- The ancestors have the prefixes of the words. -/
theorem map_plain_ancestors (p : Path) (includeSelf : Bool) :
    (p.ancestors includeSelf).map plain = p.plain.ancestors includeSelf := by
  have words (n : Nat) : (p.take n).plain = ⟨p.isPrivate, p.plain.words.take n⟩ := by
    simp [plain, take, isPrivate]
  have prefixes {n : Nat} (inside : n ≤ p.length) :
      ((List.range' 1 n).map p.take).map plain =
        (p.plain.words.take n).inits.tail.map fun ws => ⟨p.isPrivate, ws⟩ := by
    rw [inits_tail_take (p.length_words ▸ inside), List.map_map, List.map_map]
    exact List.map_congr_left fun n _ => words n
  cases includeSelf with
  | true =>
    have all : p.plain.words.take p.length = p.plain.words := by
      rw [← length_words, List.take_length]
    have same := prefixes (Nat.le_refl p.length)
    rw [all] at same
    exact same
  | false =>
    have front : p.plain.words.take (p.length - 1) = p.plain.words.dropLast := by
      rw [← length_words, List.dropLast_eq_take]
    have same := prefixes (Nat.sub_le p.length 1)
    rw [front] at same
    exact same

end Path

namespace Session

variable {kept : List Path} {step : Step}

theorem map_plain_build (source : Source) :
    source.build.value.map Path.plain = Plain.build source := by
  cases source with
  | text s =>
    simp only [Source.build, Plain.build, Logged.value_bind, Logged.value_pure]
    cases (Path.parse s).value <;> rfl
  | segments kind list => rfl
  | collected list => rfl
  | root => rfl
  | packed words =>
    simp [Source.build, Plain.build, Except.map, Path.value_unpack, Path.plain_ofSegments,
      Segment.ofPacked, Function.comp_def]
  | purpose u => exact congrArg Except.ok (Path.plain_parentPath u)
  | purposeText s =>
    simp only [Source.build, Plain.build, Logged.value_bind, Logged.value_pure]
    cases (Purpose.parse s).value with
    | ok u => exact congrArg Except.ok (Path.plain_parentPath u)
    | error unknown => rfl
  | steps kind list => exact congrArg Except.ok (Path.plain_ofSteps kind list)

theorem map_plain_apply (p : Path) (derivation : Derivation) :
    (derivation.apply kept p).value.map Path.plain =
      p.plain.derive (kept.map Path.plain) derivation := by
  cases derivation with
  | extend list => exact congrArg Except.ok (p.plain_extend list)
  | append other =>
    simp only [Derivation.apply, Plain.derive, List.getElem?_map]
    cases kept[other]? with
    | none => rfl
    | some q => exact congrArg Except.ok (p.plain_extend q.segments)
  | child s => exact congrArg Except.ok (p.plain_extend [s])
  | parent => simp [Derivation.apply, Plain.derive, Path.plain, Path.isPrivate, Except.map]
  | reload =>
    simp only [Derivation.apply, Logged.value_bind, Logged.value_pure, Path.unpack_pack]
    rfl
  | reparse => simp [Derivation.apply, Plain.derive, Except.map, Except.mapError]
  | json => simp [Derivation.apply, Plain.derive, Except.map]
  | steps kind =>
    simp [Derivation.apply, Plain.derive, Path.ofSteps_toSteps, Path.plain, Path.isPrivate,
      Except.map]

theorem map_plain_receiver? (on : Option Nat) :
    (receiver? kept on).map Path.plain = Plain.receiver? (kept.map Path.plain) on := by
  cases on with
  | none => simp [receiver?, Plain.receiver?]
  | some number => simp [receiver?, Plain.receiver?]

theorem ite_lt_length {α : Type} (l : List α) (index : Nat) (failure : Failure) :
    (if index < l.length then none else some failure) =
      match l[index]? with
      | some _ => none
      | none => some failure := by
  by_cases inside : index < l.length
  · rw [if_pos inside, List.getElem?_eq_getElem inside]
  · rw [if_neg inside, List.getElem?_eq_none (Nat.le_of_not_lt inside)]

/-- A question is refused for a position or a number that is out of range, and for nothing else. -/
theorem failure?_answer (p : Path) (query : Query) :
    (query.answer kept p).failure? = p.plain.refusal? (kept.map Path.plain) query := by
  cases query with
  | segment index =>
    simp only [Query.answer, Plain.refusal?, Path.length_words]
    rw [Path.length, ite_lt_length, Path.segment, Path.get?]
    cases p.segments[index]? <;> rfl
  | «at» index =>
    simp only [Query.answer, Plain.refusal?, Path.length_words]
    rw [Path.length, ite_lt_length, Path.get?]
    cases p.segments[index]? <;> rfl
  | startsWith other =>
    simp only [Query.answer, Plain.refusal?, List.length_map]
    rw [ite_lt_length]
    cases kept[other]? <;> rfl
  | comparison other =>
    simp only [Query.answer, Plain.refusal?, List.length_map]
    rw [ite_lt_length]
    cases kept[other]? <;> rfl
  | _ => rfl

/-- What the outcome is for the plain machine. -/
def Outcome.plain (outcome : Outcome) : PlainOutcome :=
  ⟨outcome.reply.failure?, outcome.made.map Path.plain⟩

theorem plain_ofResult (result : Except Failure Path) :
    (Outcome.ofResult result).plain = .ofResult (result.map Path.plain) := by
  cases result <;> rfl

/-- A step of a session is a step of the plain machine. -/
theorem plain_perform (kept : List Path) (step : Step) :
    (step.perform kept).value.plain = Plain.perform (kept.map Path.plain) step := by
  cases step with
  | build source =>
    rw [Plain.perform, ← map_plain_build, ← plain_ofResult]
    rfl
  | derive on derivation =>
    rw [Plain.perform, ← map_plain_receiver?, Step.perform]
    cases receiver? kept on with
    | none => rfl
    | some p =>
      simp only [Option.map_some, ← map_plain_apply, ← plain_ofResult]
      rfl
  | ancestors on includeSelf =>
    rw [Plain.perform, ← map_plain_receiver?, Step.perform]
    cases receiver? kept on with
    | none => rfl
    | some p =>
      simp only [Option.map_some, ← Path.map_plain_ancestors]
      rfl
  | ask on query =>
    rw [Plain.perform, ← map_plain_receiver?, Step.perform]
    cases receiver? kept on with
    | none => rfl
    | some p =>
      simp only [Option.map_some, ← failure?_answer]
      rfl

/-- A session runs as the plain machine does. -/
theorem plain_run (kept : List Path) (steps : List Step) :
    (run kept steps).value.2.map Path.plain = (Plain.run (kept.map Path.plain) steps).2 ∧
      (run kept steps).value.1.map Reply.failure? =
        (Plain.run (kept.map Path.plain) steps).1 := by
  induction steps generalizing kept with
  | nil => exact ⟨rfl, rfl⟩
  | cons step rest ih =>
    have same := plain_perform kept step
    have later := ih (kept ++ (step.perform kept).value.made)
    have made : (kept ++ (step.perform kept).value.made).map Path.plain =
        kept.map Path.plain ++ (Plain.perform (kept.map Path.plain) step).made := by
      rw [List.map_append, ← same]
      rfl
    rw [made] at later
    rw [run_cons, Plain.run, ← same]
    rw [← same] at later
    exact ⟨later.1, congrArg₂ List.cons rfl later.2⟩

theorem run_append (kept : List Path) (first rest : List Step) :
    (run kept (first ++ rest)).value =
      ((run kept first).value.1 ++ (run (run kept first).value.2 rest).value.1,
        (run (run kept first).value.2 rest).value.2) := by
  induction first generalizing kept with
  | nil => rfl
  | cons step first ih =>
    rw [List.cons_append, run_cons, run_cons, ih]
    rfl

theorem length_replies (kept : List Path) (steps : List Step) :
    (run kept steps).value.1.length = steps.length := by
  induction steps generalizing kept with
  | nil => rfl
  | cons step rest ih =>
    rw [run_cons, List.length_cons, List.length_cons, ih]

/-- Steps only add to what is kept. -/
theorem prefix_run (kept : List Path) (steps : List Step) : kept <+: (run kept steps).value.2 := by
  induction steps generalizing kept with
  | nil => exact List.prefix_rfl
  | cons step rest ih =>
    rw [run_cons]
    exact (List.prefix_append kept _).trans (ih _)

theorem exists_receiver? {kept : List Plain} {on : Option Nat} (receives : Receives kept.length on) :
    ∃ p, Plain.receiver? kept on = some p := by
  cases on with
  | none => exact ⟨_, List.getLast?_eq_some_getLast (List.ne_nil_of_length_pos receives)⟩
  | some number => exact ⟨_, List.getElem?_eq_getElem receives⟩

theorem exists_derive {kept : List Plain} {p : Plain} {derivation : Derivation}
    (refers : derivation.Refers kept.length) : ∃ q, p.derive kept derivation = .ok q := by
  cases derivation with
  | append other =>
    have bound : other < kept.length := refers
    have known : kept[other]? = some kept[other] := List.getElem?_eq_getElem bound
    exact ⟨_, by rw [Plain.derive, known]⟩
  | _ => exact ⟨_, rfl⟩

theorem failure_perform {kept : List Plain} (makes : step.MakesFrom kept.length) :
    (Plain.perform kept step).failure = none := by
  cases step with
  | build source => cases makes
  | derive on derivation =>
    obtain ⟨p, receiver⟩ := exists_receiver? makes.1
    obtain ⟨q, done⟩ := exists_derive (p := p) makes.2
    simp only [Plain.perform, receiver, done]
    rfl
  | ancestors on includeSelf =>
    obtain ⟨p, receiver⟩ := exists_receiver? makes
    simp only [Plain.perform, receiver]
  | ask on query => cases makes

/-- Every session keeps the pairs and has the failures of the plain machine.  A step that makes
paths from stored ones never fails, and a path that is stored stays as it is. -/
theorem session_refines_plain :
    (∀ steps, (start steps).value.2.map Path.plain = (Plain.run [] steps).2 ∧
      (start steps).value.1.map Reply.failure? = (Plain.run [] steps).1) ∧
    (∀ first step rest, step.MakesFrom (start first).value.2.length →
      ∃ reply, (start (first ++ step :: rest)).value.1[first.length]? = some reply ∧
        reply.failure? = none) ∧
    (∀ first rest, (start first).value.2 <+: (start (first ++ rest)).value.2) := by
  refine ⟨plain_run [], ?_, ?_⟩
  · intro first step rest makes
    have fine : (step.perform (start first).value.2).value.reply.failure? = none := by
      have same := congrArg PlainOutcome.failure (plain_perform (start first).value.2 step)
      exact same.trans (failure_perform (by rwa [List.length_map]))
    refine ⟨_, ?_, fine⟩
    rw [start, run_append, ← length_replies [] first, List.getElem?_append_right (Nat.le_refl _),
      Nat.sub_self, run_cons]
    rfl
  · intro first rest
    simp only [start, run_append]
    exact prefix_run _ rest

/-- A public path is added to a private one, in the middle of a session. -/
theorem session_refines_plain_append :
    Step.MakesFrom 2 (.derive (some 0) (.append 1)) ∧
      ∃ reply, (start ([.build (.segments .priv [⟨44⟩]), .build (.packed [-1])] ++
          .derive (some 0) (.append 1) :: [.derive none .reload, .ancestors none true])).value.1[2]? =
        some reply ∧ reply.failure? = none := by
  have makes : Step.MakesFrom 2 (.derive (some 0) (.append 1)) :=
    ⟨Nat.zero_lt_two, Nat.one_lt_two⟩
  exact ⟨makes, session_refines_plain.2.1 [_, _] _ _ makes⟩

end Session

end KeyPath
