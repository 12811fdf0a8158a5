import KeyPath.Json.Forms
import KeyPath.Path.Parse
import KeyPath.Session.Step

/-!
# Running a session

Each step is done on the paths kept so far.  It gives a reply, and the paths it made are kept after
the others.  A step that fails keeps nothing, and the session goes on.
-/

namespace KeyPath.Session

/-- What a step answers, and the paths it made. -/
structure Outcome where
  reply : Reply
  made : List Path
deriving DecidableEq, Repr

namespace Outcome

/-- The outcome of a step that has to make one path. -/
def ofResult : Except Failure Path → Outcome
  | .ok p => ⟨.path p, [p]⟩
  | .error failure => ⟨.failed failure, []⟩

/-- The outcome of a step that makes no path. -/
def ofReply (reply : Reply) : Outcome := ⟨reply, []⟩

theorem made_ofResult (result : Except Failure Path) :
    (ofResult result).made = result.toOption.toList := by
  cases result <;> rfl

theorem reply_ofResult_eq_failed_iff {result : Except Failure Path} {failure : Failure} :
    (ofResult result).reply = .failed failure ↔ result = .error failure := by
  cases result <;> simp [ofResult]

end Outcome

/-- Makes a path from scratch. -/
def Source.build : Source → Logged (Except Failure Path)
  | .text s => return (← Path.parse s).mapError .fault
  | .segments kind list => return .ok ⟨kind, list⟩
  | .collected list => return .ok (Path.ofSegments list)
  | .root => return .ok Path.root
  | .packed words => return .ok (← Path.unpack words)
  | .purpose u => return .ok u.parentPath
  | .purposeText s =>
    return ((← Purpose.parse s).map Purpose.parentPath).mapError .unknownPurpose
  | .steps kind list => return .ok (Path.ofSteps kind list)

theorem value_build_text (s : String) :
    (Source.text s).build.value = (Path.parse s).value.mapError .fault := by
  simp only [Source.build, Logged.value_bind, Logged.value_pure]

theorem value_build_purposeText (s : String) :
    (Source.purposeText s).build.value =
      ((Purpose.parse s).value.map Purpose.parentPath).mapError .unknownPurpose := by
  simp only [Source.build, Logged.value_bind, Logged.value_pure]

/-- Makes a path from the path `p`; `kept` are the paths that numbers mean. -/
def Derivation.apply (kept : List Path) (p : Path) : Derivation → Logged (Except Failure Path)
  | .extend list => return .ok (p.extend list)
  | .append other =>
    match kept[other]? with
    | some q => return .ok (p.append q)
    | none => return .error .noPath
  | .child s => return .ok (p.child s)
  | .parent => return .ok p.parent
  | .reload => return .ok (← Path.unpack p.pack)
  | .reparse => return (← Path.parse p.text).mapError .fault
  | .json =>
    match Path.ofJsonText? p.toJsonText with
    | some q => return .ok q
    | none => return .error .json
  | .steps kind => return .ok (Path.ofSteps kind p.toSteps)

/-- Answers a question about the path `p`; `kept` are the paths that numbers mean. -/
def Query.answer (kept : List Path) (p : Path) : Query → Reply
  | .segment index =>
    match p.segment index with
    | .ok s => .segment s
    | .error fault => .failed (.fault fault)
  | .get index => .found (p.get? index)
  | .at index =>
    match p.get? index with
    | some s => .word s
    | none => .failed .brokenPromise
  | .ends => .ends p.first? p.last?
  | .hardenedCount => .count p.hardenedCount
  | .contains s => .flag (p.contains s)
  | .startsWith other =>
    match kept[other]? with
    | some q => .flag (p.startsWith q)
    | none => .failed .noPath
  | .forward => .segments p.segments
  | .backward => .segments p.segments.reverse
  | .packed => .packed p.pack
  | .purpose => .purpose (Purpose.detect p)
  | .describe => .description p
  | .comparison other =>
    match kept[other]? with
    | some q => .comparison (Path.comparison p q)
    | none => .failed .noPath

/-- The path that a step works on. -/
def receiver? (kept : List Path) (on : Option Nat) : Option Path :=
  match on with
  | some number => kept[number]?
  | none => kept.getLast?

/-- Does one step on the paths kept so far. -/
def Step.perform (kept : List Path) : Step → Logged Outcome
  | .build source => return .ofResult (← source.build)
  | .derive on derivation =>
    match receiver? kept on with
    | some p => return .ofResult (← derivation.apply kept p)
    | none => return .ofReply (.failed .noPath)
  | .ancestors on includeSelf =>
    match receiver? kept on with
    | some p => return ⟨.paths (p.ancestors includeSelf), p.ancestors includeSelf⟩
    | none => return .ofReply (.failed .noPath)
  | .ask on query =>
    match receiver? kept on with
    | some p => return .ofReply (query.answer kept p)
    | none => return .ofReply (.failed .noPath)

/-- Does the steps in turn, and gives their replies and all paths that are kept in the end. -/
def run (kept : List Path) : List Step → Logged (List Reply × List Path)
  | [] => return ([], kept)
  | step :: rest => do
    let outcome ← step.perform kept
    let (replies, kept) ← run (kept ++ outcome.made) rest
    return (outcome.reply :: replies, kept)

/-- Runs a session from its start. -/
def start (steps : List Step) : Logged (List Reply × List Path) := run [] steps

theorem run_cons (kept : List Path) (step : Step) (rest : List Step) :
    (run kept (step :: rest)).value =
      ((step.perform kept).value.reply ::
          (run (kept ++ (step.perform kept).value.made) rest).value.1,
        (run (kept ++ (step.perform kept).value.made) rest).value.2) := rfl

theorem records_run_cons (kept : List Path) (step : Step) (rest : List Step) :
    (run kept (step :: rest)).records =
      (step.perform kept).records ++
        (run (kept ++ (step.perform kept).value.made) rest).records := by
  simp [run]

end KeyPath.Session
