import ProofTutor.Dump.Reader
import ProofTutor.Prover.Basic
import ProofTutor.Text.Letter
import ProofTutor.Text.Basic

/-!
What a user does: a button or a statement of the library, on selected entries of the context, with
the inputs given so far. Then the labels of the branches of a proof, why a step fails after it was
submitted, and the exit codes of the command line.
-/

namespace ProofTutor

inductive Button where
  | universal | existential | implies | and | or | not | iff | equal
  | contradiction | cases | assumption
  | code
  deriving DecidableEq, Repr, Inhabited

namespace Button

def all : List Button :=
  [.universal, .existential, .implies, .and, .or, .not, .iff, .equal, .contradiction, .cases,
    .assumption, .code]

def name : Button → String
  | .universal => "forall"
  | .existential => "exists"
  | .implies => "implies"
  | .and => "and"
  | .or => "or"
  | .not => "not"
  | .iff => "iff"
  | .equal => "equal"
  | .contradiction => "contradiction"
  | .cases => "cases"
  | .assumption => "assumption"
  | .code => "code"

def ofName? (name : String) : Option Button :=
  all.find? fun b => b.name == name

def read (s : String) : Except String Button :=
  match ofName? (Text.lower s) with
  | some b => .ok b
  | none => .error ("Unknown button: " ++ Text.lower s)

end Button

inductive Input where
  | choice (number : Nat)
  | text (text : String)
  deriving DecidableEq, Repr, Inhabited

namespace Input

def asChoice? : Input → Option Nat
  | .choice n => some n
  | .text s => Text.readNat? Text.word64 (Text.strip s.toList)

def asText : Input → String
  | .choice n => toString n
  | .text s => s

end Input

structure Action where
  selection : List String := []
  button : Option Button := none
  statement : Option String := none
  inputs : List Input := []
  deriving DecidableEq, Repr, Inhabited

namespace Action

def textInput? (a : Action) (i : Nat) : Option String :=
  (a.inputs[i]?.map (·.asText)).filter (!Text.allBlank ·)

def choiceInput? (a : Action) (i : Nat) : Option Nat :=
  a.inputs[i]?.bind (·.asChoice?)

end Action

/-! ### Branches -/

inductive BranchStatus where
  | active | pending | solved
  deriving DecidableEq, Repr, Inhabited

namespace BranchStatus

def all : List BranchStatus := [.active, .pending, .solved]

def name : BranchStatus → String
  | .active => "active"
  | .pending => "pending"
  | .solved => "solved"

end BranchStatus

structure Branch where
  label : String
  status : BranchStatus
  deriving DecidableEq, Repr, Inhabited

namespace Branch

def active (label : String) : Branch := ⟨label, .active⟩

def pending (label : String) : Branch := ⟨label, .pending⟩

end Branch

/-! ### Failures -/

inductive StepFailure where
  | rejected (message : String) (line : Option Nat)
  | timeout
  | undecodable (reason : String)
  | crashed (reason : String)
  | noProofState
  deriving DecidableEq, Repr, Inhabited

inductive ExitCode where
  | ok | userInput | rejected | timeout | decoding | noProofState
  deriving DecidableEq, Repr, Inhabited

namespace ExitCode

def code : ExitCode → Nat
  | .ok => 0
  | .userInput => 1
  | .rejected => 2
  | .timeout => 3
  | .decoding => 4
  | .noProofState => 5

def name : ExitCode → String
  | .ok => "Ok"
  | .userInput => "UserInputError"
  | .rejected => "ProverRequestFailed"
  | .timeout => "Timeout"
  | .decoding => "DecodingError"
  | .noProofState => "NoProofState"

end ExitCode

namespace StepFailure

def message : StepFailure → String
  | .rejected message _ => message
  | .timeout => "the prover did not answer in time"
  | .undecodable reason => "could not decode the prover output: " ++ reason
  | .crashed reason => "the prover crashed: " ++ reason
  | .noProofState => "no proof state could be retrieved"

def exitCode : StepFailure → ExitCode
  | .rejected _ _ => .rejected
  | .timeout => .timeout
  | .undecodable _ => .decoding
  | .crashed _ | .noProofState => .noProofState

def ofProver : ProverFailure → StepFailure
  | .startup reason => .crashed reason
  | .timeout _ _ => .timeout
  | .refused message => .rejected message none
  | .closed => .crashed "channel closed"
  | .unwritable reason => .crashed reason

def ofWarnings (warnings : List Warning) : StepFailure :=
  .undecodable (Text.join "; " (warnings.map (·.display)))

end StepFailure

end ProofTutor
