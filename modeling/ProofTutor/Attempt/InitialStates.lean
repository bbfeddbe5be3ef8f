import ProofTutor.Course.BatchFile
import ProofTutor.Dump.Goals
import ProofTutor.Prover.Basic
import ProofTutor.Step.Action

/-!
The initial states of several exercises from one check. Each message belongs to the exercise on
whose line it stands.
-/

namespace ProofTutor.InitialStates

structure Dumps where
  context : Option String := none
  targets : Option String := none
  error : Option String := none
  deriving Inhabited

def hasHeader (header : List Char) (text : String) : Bool :=
  (Text.stripHead? header text.toList).isSome

def Dumps.note (d : Dumps) (severity : Severity) (analysis : Analysis) (text : String) : Dumps :=
  match severity, analysis with
  | .error, _ => { d with error := d.error.or (some text) }
  | _, .context => if hasHeader Dump.contextHeader text then { d with context := some text } else d
  | _, .targets => if hasHeader Dump.targetsHeader text then { d with targets := some text } else d

def dumpsOf (f : BatchFile) (messages : List Message) (exercise : Nat) : Dumps :=
  messages.foldl
    (fun d m =>
      match f.exerciseAt? m.line with
      | some (i, analysis) =>
        if i = exercise then d.note m.severity analysis (Text.trim m.text) else d
      | none => d)
    {}

def stateOf (naming : Naming) (f : BatchFile) (messages : List Message) (exercise : Nat) :
    Except StepFailure ProofState :=
  match dumpsOf f messages exercise with
  | { error := some message, .. } => .error (.rejected message ((f.linesOf? exercise).map (·.1)))
  | { context := some context, targets := some targets, .. } =>
    (Dump.decode naming context targets).state?.mapError .ofWarnings
  | _ => .error .noProofState

def states (naming : Naming) (f : BatchFile) (exercises : List Exercise) :
    CheckResult → List (Exercise × Except StepFailure ProofState)
  | .ok messages => exercises.zipIdx.map fun (e, i) => (e, stateOf naming f messages i)
  | .error failure => exercises.map (·, .error (.ofProver failure))

def request (c : Course) (exercises : List Exercise) (naming : Naming) (sequence : Nat) :
    Except CourseError (BatchFile × Dialog (List (Exercise × Except StepFailure ProofState))) := do
  let f ← BatchFile.build c exercises sequence
  return (f, .check f.content fun answer => .done (states naming f exercises answer))

end ProofTutor.InitialStates
