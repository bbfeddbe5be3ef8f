import ProofTutor.Attempt.InitialStates
import ProofTutor.Cli.Interactive
import ProofTutor.Course.Scan
import ProofTutor.Settings.File

/-!
What an invocation comes to, given the files that it names: either its output is known at once, or a
prover has to be started for a dialog.
-/

namespace ProofTutor

structure Printout where
  printed : List Printed := []
  exitCode : Nat := 0
  deriving Repr, Inhabited

namespace Printout

def fatal (reason : String) : Printout where
  printed := Page.trouble ("Error: " ++ reason)
  exitCode := 1

def refused (e : ArgumentError) : Printout where
  printed := Page.trouble ("error: " ++ e.message)
  exitCode := 2

end Printout

inductive Program where
  | known (printout : Printout)
  | proving (settings : ProverSettings) (dialog : Dialog Printout)
  | session (settings : ProverSettings) (page : Page)
      (start : Dialog (Except String Interactive))

namespace Invocation

def settings (i : Invocation) (read : String → Option String) : Except String Settings := do
  let settings ← match i.settingsFile with
    | none => pure {}
    | some path =>
      match read path with
      | none => .error ("Failed to read configuration " ++ path)
      | some text =>
        match Settings.read? text with
        | some settings => pure settings
        | none => .error Settings.refusal
  return { settings with prover := { settings.prover with
    executable := i.executable.getD settings.prover.executable
    libraryPaths := settings.prover.libraryPaths ++ i.libraries
    timeoutSeconds := i.timeoutSeconds.getD settings.prover.timeoutSeconds } }

def readCourse (read : String → Option String) (path : String) : Except String Course :=
  match read path with
  | some source => .ok (Course.scan source)
  | none => .error ("Failed to read course " ++ path)

def findExercise (c : Course) (name : String) : Except String Exercise :=
  match c.exercise? name with
  | some e => .ok e
  | none => .error ("Unknown exercise: " ++ name)

def assemblerFor (c : Course) (e : Exercise) : Except String Assembler :=
  (Assembler.start c e).mapError CourseError.message

def statesExitCode (states : List (Exercise × Except StepFailure ProofState)) : Nat :=
  let failure? := states.findSome? fun (_, s) =>
    match s with
    | .error failure => some failure
    | .ok _ => none
  ((failure?.map StepFailure.exitCode).getD .ok).code

def initialStates (s : Settings) (p : Page) (c : Course) (names : List String) :
    Except String Program := do
  let exercises ← if names.isEmpty then pure c.exercises else names.mapM (findExercise c)
  if exercises.isEmpty then return .known { printed := p.warning "Nothing to analyse" }
  else
    let dialog := match InitialStates.request c exercises s.naming 0 with
      | .error e => .done (.fatal e.message)
      | .ok (_, request) =>
        (fun states => { printed := p.initialStates states, exitCode := statesExitCode states }) <$>
          request
    return .proving s.prover dialog

def attemptState (p : Page) (a : Attempt) : List Printed :=
  match p.form with
  | .text => p.state a.history.currentState
  | .json => []

def replayed (p : Page) (exercise : String) (script : Script) :
    Except StepFailure Attempt → Dialog Printout
  | .error failure =>
    .done {
      printed := p.error ("Cannot start " ++ exercise ++ ": " ++ failure.message)
      exitCode := failure.exitCode.code }
  | .ok a => do
    let t ← Replay.replay a script.entries
    return {
      printed := attemptState p a ++ t.result.records.flatMap p.record ++
        attemptState p t.attempt ++ p.replaySummary t.result
      exitCode := t.result.exitCode.code }

def replay (s : Settings) (p : Page) (c : Course) (script : Script) : Except String Program := do
  let e ← findExercise c script.exercise
  let assembler ← assemblerFor c e
  return .proving s.prover
    ((Attempt.start assembler s.naming).bind (replayed p script.exercise script))

def readScript (read : String → Option String) (path : String) : Except String Script :=
  match read path with
  | none => .error ("Failed to read script " ++ path)
  | some text =>
    match Script.read? text with
    | some script => .ok script
    | none => .error "Invalid script"

def interactive (s : Settings) (p : Page) (c : Course) (name : String) :
    Except String Program := do
  let e ← findExercise c name
  let assembler ← assemblerFor c e
  let start := (Attempt.start assembler s.naming).bind fun
    | .error failure => .done (.error ("Cannot start " ++ name ++ ": " ++ failure.message))
    | .ok attempt => .done (.ok { attempt, exercise := name : Interactive })
  return .session s.prover p start

def render (s : Settings) (p : Page) (tree : String) : Program :=
  match Term.read s.naming tree with
  | .ok t => .known { printed := p.rendering t }
  | .error e => .known { printed := p.error e.display, exitCode := ExitCode.decoding.code }

def program? (i : Invocation) (read : String → Option String) : Except String Program := do
  let s ← i.settings read
  let p : Page := { form := i.form, display := s.display }
  match i.command with
  | .initialStates course names => initialStates s p (← readCourse read course) names
  | .replay course script => do
    let c ← readCourse read course
    replay s p c (← readScript read script)
  | .interactive course name => interactive s p (← readCourse read course) name
  | .render tree => return render s p tree
  | .listExercises course => do
    let c ← readCourse read course
    return .known { printed := p.exercises c.exercises }
  | .version => return .known { printed := Page.lines ["proofdriver 0.1.0"] }

def program (i : Invocation) (read : String → Option String) : Program :=
  match i.program? read with
  | .ok program => program
  | .error reason => .known (.fatal reason)

def files (i : Invocation) : List String :=
  i.settingsFile.toList ++ match i.command with
    | .initialStates course _ | .interactive course _ | .listExercises course => [course]
    | .replay course script => [course, script]
    | .render _ | .version => []

end Invocation

namespace Program

def prover? : Program → Option ProverSettings
  | .known _ => none
  | .proving settings _ | .session settings _ _ => some settings

def lead (input : List String) : Program → Dialog Printout
  | .known printout => .done printout
  | .proving _ dialog => dialog
  | .session _ page start =>
    start.bind fun
      | .error reason => .done (.fatal reason)
      | .ok r =>
        (r.feedAll page input).bind fun printed =>
          .done { printed := r.welcome page ++ printed }

def notStarted (settings : ProverSettings) (e : ProverFailure) : Printout :=
  .fatal ("Failed to start prover " ++ settings.executable ++ ": " ++ e.message)

end Program

end ProofTutor
