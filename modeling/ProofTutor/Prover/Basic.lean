import ProofTutor.Tactic.Basic
import ProofTutor.Text.Basic

/-!
What a prover says, how a request to it can fail, and computations that talk to it: they have files
checked, may have the prover started again, and go on with whatever the answers are. A rehearsed prover
answers from a script; its messages are about places in the file that it is given.
-/

namespace ProofTutor

/-! ### Messages -/

inductive Severity where
  | information | warning | error
  deriving DecidableEq, Repr, Inhabited

namespace Severity

def all : List Severity := [.information, .warning, .error]

def name : Severity → String
  | .information => "information"
  | .warning => "warning"
  | .error => "error"

def ofName? (name : String) : Option Severity :=
  all.find? fun s => s.name == name

end Severity

structure Message where
  file : String
  line : Nat
  column : Nat
  severity : Severity
  caption : String := ""
  text : String
  deriving DecidableEq, Repr, Inhabited

/-! ### Failures -/

structure Duration where
  milliseconds : Nat
  deriving DecidableEq, Repr, Inhabited

namespace Duration

def ofSeconds (n : Nat) : Duration := ⟨n * 1000⟩

def thousandths (n : Nat) : List Char :=
  let digits := [n / 100, n / 10 % 10, n % 10]
  ((digits.reverse.dropWhile (· == 0)).reverse).map Nat.digitChar

def display (d : Duration) : String :=
  let seconds := d.milliseconds / 1000
  let rest := d.milliseconds % 1000
  if 0 < seconds then
    if rest = 0 then toString seconds ++ "s"
    else toString seconds ++ "." ++ .ofList (thousandths rest) ++ "s"
  else if 0 < rest then toString rest ++ "ms"
  else "0ns"

end Duration

inductive ProverFailure where
  | startup (reason : String)
  | timeout (request : Nat) (after : Duration)
  | refused (message : String)
  | closed
  | unwritable (reason : String)
  deriving DecidableEq, Repr, Inhabited

namespace ProverFailure

def message : ProverFailure → String
  | .startup reason => "prover startup failed: " ++ reason
  | .timeout request after =>
    "request " ++ toString request ++ " timed out after " ++ after.display
  | .refused message => "prover request failed: " ++ message
  | .closed => "prover channel closed"
  | .unwritable reason => "prover I/O error: " ++ reason

def isCrash : ProverFailure → Bool
  | .closed | .unwritable _ => true
  | _ => false

end ProverFailure

/-! ### Dialogs -/

abbrev CheckResult := Except ProverFailure (List Message)

inductive Dialog (α : Type) where
  | done (result : α)
  | check (content : String) (next : CheckResult → Dialog α)
  | restart (next : Except ProverFailure Unit → Dialog α)

namespace Dialog

def bind {α β : Type} (d : Dialog α) (f : α → Dialog β) : Dialog β :=
  match d with
  | .done result => f result
  | .check content next => .check content fun answer => (next answer).bind f
  | .restart next => .restart fun answer => (next answer).bind f

instance : Monad Dialog where
  pure := .done
  bind := .bind

structure Prover (σ : Type) where
  check : String → σ → CheckResult × σ
  restart : σ → Except ProverFailure Unit × σ

def run {σ α : Type} (p : Prover σ) : Dialog α → σ → α × σ
  | .done result, s => (result, s)
  | .check content next, s =>
    match p.check content s with
    | (answer, s) => run p (next answer) s
  | .restart next, s =>
    match p.restart s with
    | (answer, s) => run p (next answer) s

inductive Returns {α : Type} : Dialog α → List String → α → Prop where
  | done (result : α) : Returns (.done result) [] result
  | check {content next contents result} (answer : CheckResult)
      (rest : Returns (next answer) contents result) :
      Returns (.check content next) (content :: contents) result
  | restart {next contents result} (answer : Except ProverFailure Unit)
      (rest : Returns (next answer) contents result) :
      Returns (.restart next) contents result

end Dialog

/-! ### Rehearsals -/

inductive Spot where
  | context
  | targets
  | ending
  | last
  | starting (word : String)
  | line (number : Nat)
  deriving DecidableEq, Repr, Inhabited

namespace Spot

def lineStarting (content word : String) : Nat :=
  match (Text.lines content).findIdx? fun line => Text.begins (Text.trimStart line) word with
  | some i => i + 1
  | none => 0

def lineIn (content : String) : Spot → Nat
  | .context => lineStarting content Vocabulary.contextAnalysis
  | .targets => lineStarting content Vocabulary.contextAnalysis + 1
  | .ending => lineStarting content Vocabulary.contextAnalysis + 2
  | .last => lineStarting content Vocabulary.contextAnalysis - 1
  | .starting word => lineStarting content word
  | .line number => number

end Spot

structure Rehearsed where
  fired : List (Nat × Nat) := []
  messages : List (Spot × Severity × String) := []
  dumps : Option (String × String) := none
  error : Option String := none
  noGoals : Bool := false
  deriving DecidableEq, Repr, Inhabited

namespace Rehearsed

def remarks (r : Rehearsed) : List (Spot × Severity × String) :=
  r.fired.map (fun (node, index) => (.last, .information, Vocabulary.probeText node index)) ++
    r.messages ++
    (match r.dumps with
      | some (context, targets) =>
        [(.context, .information, context), (.targets, .information, targets),
          (.ending, .error, "tactic failed, there are unsolved goals")]
      | none => []) ++
    (r.error.map fun text => (.last, .error, text)).toList ++
    if r.noGoals then [(.context, .error, "no goals"), (.targets, .error, "no goals")] else []

def messagesFor (r : Rehearsed) (file content : String) : List Message :=
  r.remarks.map fun (spot, severity, text) =>
    { file, line := spot.lineIn content, column := 2, severity, text }

end Rehearsed

structure Rehearsal where
  answers : List (Except ProverFailure Rehearsed)
  restarts : List (Except ProverFailure Unit) := []
  submitted : List String := []
  restarted : Nat := 0

namespace Rehearsal

def fileName : String := "exercise.lean"

def prover : Dialog.Prover Rehearsal where
  check content r :=
    ((r.answers.headD (.ok {})).map (·.messagesFor fileName content),
      { r with answers := r.answers.drop 1, submitted := r.submitted ++ [content] })
  restart r :=
    (r.restarts.headD (.ok ()), { r with restarts := r.restarts.drop 1, restarted := r.restarted + 1 })

end Rehearsal

end ProofTutor
