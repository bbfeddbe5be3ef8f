import ProofTutor.Course.BatchFile
import ProofTutor.Dump.Goals
import ProofTutor.Goal.Basic
import ProofTutor.History.Basic
import ProofTutor.Prover.Basic
import ProofTutor.Step.Action
import ProofTutor.Step.Build
import ProofTutor.Tactic.Selection

/-!
An attempt at an exercise: each action becomes a file for the prover, and the answer becomes a step
of the history. What the messages on the file say about its step are the two dumps, the probes, the
first error in the new lines, and whether no goal is left. Moves in the history send the visible steps
again, and a script of actions and moves is replayed on an attempt.
-/

namespace ProofTutor.GoalStack

/-! ### Labels of the open goals -/

def fit (count : Nat) (labels : List String) : List String :=
  labels.take count ++
    (List.range' (labels.length + 1) (count - labels.length)).map fun n => "Goal " ++ toString n

/-- The stack after a step that made `before` goals into `after`. A step that adds goals puts its
branches in the place of the current goal, a step that closes goals drops their labels, and a step
with an active branch renames the current goal. -/
def next (stack : List String) (before after : Nat) (branches : List Branch) : List String :=
  fit after <|
    if before < after then branches.map (·.label) ++ stack.drop 1
    else if after < before then stack.drop (before - after)
    else
      match branches.find? (·.status == .active) with
      | some active => active.label :: stack.drop 1
      | none => stack

end ProofTutor.GoalStack

/-! ### Reports -/

namespace ProofTutor

structure Report where
  context : Option String := none
  targets : Option String := none
  probes : List Tactic.Probe := []
  failure : Option StepFailure := none
  noGoals : Bool := false
  deriving Inhabited, Repr

namespace Report

def metaVarsMark : String := "metavariables"

def failureOf (text : String) (line : Nat) : StepFailure :=
  .rejected
    (if Text.contains text metaVarsMark then "the step left undetermined objects: " ++ text
      else text)
    (some line)

def noteError (f : LiveFile) (r : Report) (line : Nat) (text : String) : Report :=
  if f.isAnalysisLine line && Text.contains text Vocabulary.noGoalsMark then
    { r with noGoals := true }
  else if f.endLine ≤ line && Text.contains text Vocabulary.unsolvedMark then r
  else if f.inNewLines line then { r with failure := r.failure.or (some (failureOf text line)) }
  else r

def notePrint (f : LiveFile) (r : Report) (line : Nat) (text : String) : Report :=
  if line = f.contextLine ∧ (Text.stripHead? Dump.contextHeader text.toList).isSome then
    { r with context := some text }
  else if line = f.targetsLine ∧ (Text.stripHead? Dump.targetsHeader text.toList).isSome then
    { r with targets := some text }
  else r

def note (f : LiveFile) (r : Report) (m : Message) : Report :=
  let text := Text.trim m.text
  if Text.contains text Vocabulary.probeMark then
    { r with probes := r.probes ++ (Vocabulary.readProbe? text).toList }
  else if m.severity = .error then noteError f r m.line text
  else notePrint f r m.line text

def read (f : LiveFile) (messages : List Message) : Report :=
  messages.foldl (note f) {}

def state (naming : Naming) (r : Report) : Except StepFailure ProofState :=
  match r.failure with
  | some failure => .error failure
  | none =>
    if r.noGoals then .ok {}
    else
      match r.context, r.targets with
      | some context, some targets =>
        (Dump.decode naming context targets).state?.mapError .ofWarnings
      | _, _ => .error .noProofState

end Report

/-! ### Attempts -/

inductive Announcement where
  | state (state : ProofState)
  | step (step : Step)
  | error (step : Option Nat) (message : String)
  deriving Inhabited

inductive Outcome where
  | sealed (id : Nat)
  | needsInput (request : InputRequest)
  | wrongInput (reason : String)
  | failed (id : Nat)
  deriving Inhabited, Repr

structure Attempt where
  assembler : Assembler
  naming : Naming := {}
  history : History
  deriving Inhabited

structure Turn (α : Type) where
  result : α
  attempt : Attempt
  announced : List Announcement := []

namespace Attempt

def checkFile (content : String) : Dialog (Except StepFailure (List Message)) :=
  .check content fun
    | .ok messages => .done (.ok messages)
    | .error failure =>
      if failure.isCrash then
        .restart fun
          | .error failure => .done (.error (.crashed failure.message))
          | .ok () => .check content fun
            | .ok messages => .done (.ok messages)
            | .error failure =>
              .done (.error (if failure.isCrash then .crashed failure.message else .ofProver failure))
      else .done (.error (.ofProver failure))

abbrev Checked := Except StepFailure (ProofState × List Tactic.Probe)

def checkLive (naming : Naming) (f : LiveFile) : Dialog Checked := do
  match ← checkFile f.content with
  | .error failure => return .error failure
  | .ok messages =>
    let report := Report.read f messages
    return (report.state naming).map (·, report.probes)

def start (assembler : Assembler) (naming : Naming) : Dialog (Except StepFailure Attempt) := do
  let (file, assembler) := assembler.liveStep [] none
  match ← checkLive naming file with
  | .error failure => return .error failure
  | .ok (initial, _) =>
    return .ok { assembler, naming, history := .start (initial.anchor none) }

def acceptedSources (a : Attempt) : List String :=
  a.history.accepted.filterMap fun s => (s.effective.or s.code).map (·.source true)

def branchesOf (plan : Plan) (before after : ProofState) : List Branch :=
  if !plan.branches.isEmpty then plan.branches
  else if before.goalCount < after.goalCount then
    (ProofState.subgoalLabels plan.kind before after (after.goalCount - before.goalCount)).mapIdx
      fun i label => if i = 0 then .active label else .pending label
  else []

structure Pending where
  plan : Plan
  numbered : Tactic
  step : Step

def sealFailure (a : Attempt) (p : Pending) (failure : StepFailure) : Turn Outcome :=
  let h := a.history
  let before := h.currentState
  let message := match p.numbered.errorMessage? with
    | some own => own ++ ": " ++ failure.message
    | none => failure.message
  let step := h.filed
    { p.step with
      failure := some failure, goalStack := h.goalStack, totalGoals := before.goalCount }
  { result := .failed step.id
    attempt := { a with history := h.recordFailure step }
    announced := [.error (some step.id) message, .step step, .state before] }

def sealSuccess (a : Attempt) (p : Pending) (after : ProofState) (probes : List Tactic.Probe) :
    Turn Outcome :=
  let h := a.history
  let before := h.currentState
  let effective := (p.numbered.resolve? probes).getD p.numbered
  let after := after.tagAgainst before (some h.nextId)
  let branches := branchesOf p.plan before after
  let step := h.filed
    { p.step with
      effective := some effective
      success := p.numbered.successMessageFor (effective.source true)
      branches
      goalStack := GoalStack.next h.goalStack before.goalCount after.goalCount branches
      totalGoals := after.goalCount
      completesProof := after.isComplete
      after := some h.states.length }
  { result := .sealed step.id
    attempt := { a with history := (h.pushState after).recordSuccess step }
    announced := [.state after, .step step] }

def submit (a : Attempt) (action : Action) (plan : Plan) (counter : Nat) :
    LiveFile × Attempt × Pending :=
  let (numbered, instrumented) := plan.code.withChecks.instrument
  let source := instrumented.source false
  let (file, assembler) := a.assembler.liveStep a.acceptedSources (some source)
  (file, { a with assembler },
    { plan, numbered
      step := { action, before := a.history.currentStateId, code := some numbered,
                submitted := some source, counter } })

def step (a : Attempt) (action : Action) : Dialog (Turn Outcome) :=
  let reject (reason : String) : Turn Outcome :=
    { result := .wrongInput reason, attempt := a, announced := [.error none reason] }
  match a.history.currentState.mainGoal? with
  | none => .done (reject "The proof is already complete")
  | some goal =>
    match Workbench.build { goal, naming := a.naming, counter := a.history.counter } action with
    | .error (.needsInput request) => .done { result := .needsInput request, attempt := a }
    | .error (.wrongInput reason) => .done (reject reason)
    | .ok (plan, counter) =>
      match a.submit action plan counter with
      | (file, a, pending) =>
        (checkLive a.naming file).bind fun
          | .error failure => .done (a.sealFailure pending failure)
          | .ok (after, probes) => .done (a.sealSuccess pending after probes)

def resync {α : Type} (a : Attempt) (result : α) : Dialog (Turn (Except StepFailure α)) :=
  match a.assembler.liveStep a.acceptedSources none with
  | (file, assembler) =>
    let a := { a with assembler }
    (checkLive a.naming file).bind fun
      | .ok _ =>
        .done { result := .ok result, attempt := a, announced := [.state a.history.currentState] }
      | .error failure =>
        .done { result := .error failure, attempt := a, announced := [.error none failure.message] }

def moveTo (a : Attempt) (history? : Option History) : Dialog (Turn (Except StepFailure Bool)) :=
  match history? with
  | some history => { a with history }.resync true
  | none => .done { result := .ok false, attempt := a }

def undo (a : Attempt) : Dialog (Turn (Except StepFailure Bool)) :=
  a.moveTo a.history.undo?

def redo (a : Attempt) : Dialog (Turn (Except StepFailure Bool)) :=
  a.moveTo a.history.redo?

def goTo (a : Attempt) (id : Nat) : Dialog (Turn (Except StepFailure Bool)) :=
  a.moveTo (a.history.goTo? id)

def rewind (a : Attempt) : Dialog (Turn (Except StepFailure Unit)) :=
  { a with history := a.history.rewind }.resync ()

def moveCursor (a : Attempt) (move : CursorMove) : Dialog (Turn (Except StepFailure Nat)) :=
  let history := a.history.moveCursor move
  if history.cursor = a.history.cursor then .done { result := .ok history.cursor, attempt := a }
  else { a with history }.resync history.cursor

end Attempt

/-! ### Replays -/

inductive ScriptEntry where
  | step (action : Action)
  | undo
  | redo
  | rewind
  | goTo (id : Nat)
  deriving Inhabited, Repr

structure Script where
  exercise : String
  entries : List ScriptEntry
  deriving Inhabited, Repr

structure ReplayRecord where
  index : Nat
  step : Option Nat
  ok : Bool
  message : Option String
  cursor : Nat
  deriving Inhabited, Repr

structure ReplayReport where
  records : List ReplayRecord
  exitCode : ExitCode
  complete : Bool
  deriving Inhabited, Repr

namespace Replay

abbrev EntryResult := Except (ExitCode × String) (Option String)

structure EntryTurn where
  step : Option Nat
  result : EntryResult
  attempt : Attempt
  announced : List Announcement

def ofOutcome (t : Turn Outcome) : EntryTurn :=
  let step? (id : Nat) := t.attempt.history.step? id
  let (step, result) : Option Nat × EntryResult := match t.result with
    | .sealed id => (some id, .ok ((step? id).bind (·.success)))
    | .failed id =>
      match (step? id).bind (·.failure) with
      | some failure => (some id, .error (failure.exitCode, failure.message))
      | none => (some id, .error (.noProofState, ""))
    | .needsInput request => (none, .error (.userInput, "missing input: " ++ request.prompt))
    | .wrongInput reason => (none, .error (.userInput, reason))
  { step, result, attempt := t.attempt, announced := t.announced }

def ofMove (step : Option Nat) (refusal : String) (t : Turn (Except StepFailure Bool)) : EntryTurn :=
  let result : EntryResult := match t.result with
    | .ok true => .ok none
    | .ok false => .error (.userInput, refusal)
    | .error failure => .error (failure.exitCode, failure.message)
  { step, result, attempt := t.attempt, announced := t.announced }

def entry (a : Attempt) : ScriptEntry → Dialog EntryTurn
  | .step action => ofOutcome <$> a.step action
  | .undo => ofMove none "nothing to undo" <$> a.undo
  | .redo => ofMove none "nothing to redo" <$> a.redo
  | .rewind =>
    (fun t => ofMove none "" { t with result := t.result.map fun () => true }) <$> a.rewind
  | .goTo id => ofMove (some id) "step is not in the history" <$> a.goTo id

def record (index : Nat) (t : EntryTurn) : ReplayRecord :=
  let (ok, message) := match t.result with
    | .ok message => (true, message)
    | .error (_, reason) => (false, some reason)
  { index, step := t.step, ok, message, cursor := t.attempt.history.cursor }

def exitCodeAfter (before : ExitCode) (result : EntryResult) : ExitCode :=
  match before, result with
  | .ok, .error (code, _) => code
  | before, _ => before

def run (a : Attempt) (index : Nat) (exitCode : ExitCode) :
    List ScriptEntry → Dialog (Turn ReplayReport)
  | [] =>
    .done { result := { records := [], exitCode, complete := a.history.isComplete }, attempt := a }
  | e :: es => do
    let t ← entry a e
    let rest ← run t.attempt (index + 1) (exitCodeAfter exitCode t.result) es
    return { rest with
      result := { rest.result with records := record index t :: rest.result.records }
      announced := t.announced ++ rest.announced }

def replay (a : Attempt) (entries : List ScriptEntry) : Dialog (Turn ReplayReport) :=
  run a 0 .ok entries

end Replay

end ProofTutor
