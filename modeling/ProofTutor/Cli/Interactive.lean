import ProofTutor.Attempt.Basic
import ProofTutor.Cli.Page
import ProofTutor.Text.Cluster

/-!
The interactive mode. A line is a command after a colon, a statement to apply, or a button, with the
names of the selected entries. An action that needs more input asks for it, and the next line is the
answer.
-/

namespace ProofTutor

inductive TypedLine where
  | command (name : String) (arguments : List String)
  | action (action : Action)
  deriving Repr, Inhabited

namespace TypedLine

def takeBack (bytes : Nat) : List Char → List Char
  | [] => []
  | c :: cs => if bytes = 0 then c :: cs else takeBack (bytes - c.utf8Size) cs

/-- What is left of typed clusters when each backspace takes back the cluster before it. The sizes of
the clusters that stand are kept in one byte each, which is how much a backspace takes back. -/
def eraseFrom (sizes : List Nat) (typed : List Char) : List (List Char) → List Char
  | [] => typed.reverse
  | ['\x08'] :: clusters => eraseFrom sizes.tail (takeBack (sizes.headD 0) typed) clusters
  | cluster :: clusters =>
    let size := (cluster.map Char.utf8Size).sum % 256
    eraseFrom (size :: sizes) (cluster.reverse ++ typed) clusters

def erase (line : String) : String :=
  .ofList (eraseFrom [] [] (Text.clusters line.toList))

def wordsOf (s : List Char) : List String :=
  (Text.words Text.isBlank s).map .ofList

def read (line : String) : Except String TypedLine :=
  match line.toList with
  | ':' :: rest =>
    match wordsOf rest with
    | [] => .ok (.command "" [])
    | name :: arguments => .ok (.command (Text.lower name) arguments)
  | cs =>
    match wordsOf cs with
    | "apply" :: [] => .error "Usage: apply <statement> [names]"
    | "apply" :: statement :: selection =>
      .ok (.action { selection, statement := some statement })
    | words => do
      let button ← Button.read (words.headD "")
      return .action { selection := words.drop 1, button := some button }

end TypedLine

structure Interactive where
  attempt : Attempt
  exercise : String
  asked : Option (Action × InputRequest) := none
  deriving Inhabited

namespace Interactive

abbrev Reaction := List Printed × Option Interactive

def helpLines : List String :=
  ["Actions:",
    "  <button> [names]     - one of: " ++ Text.join ", " (Button.all.map Button.name),
    "  apply <stmt> [names] - rewrite with or apply a statement",
    "Commands:",
    "  :state               - Show current proof state",
    "  :history             - Show the accepted steps",
    "  :undo / :redo        - Move back or forward one step",
    "  :rewind              - Back to the initial state",
    "  :goto <step>         - Jump to an accepted step",
    "  :help                - Show this help",
    "  :quit                - Exit",
    ""]

def welcomeLines (exercise : String) : List String :=
  ["╔═══════════════════════════════════════════════════════════╗",
    "║  proofdriver interactive session                         ║",
    "╚═══════════════════════════════════════════════════════════╝",
    "",
    "Exercise: " ++ exercise,
    ""] ++ helpLines

def welcome (p : Page) (r : Interactive) : List Printed :=
  Page.lines (welcomeLines r.exercise) ++ p.state r.attempt.history.currentState

def farewell : List Printed :=
  Page.lines ["Goodbye!"]

def stateOf (p : Page) (r : Interactive) : List Printed :=
  p.state r.attempt.history.currentState

def questionLines (request : InputRequest) : List String :=
  request.prompt :: request.choices.mapIdx fun i (key, description) =>
    "  " ++ toString i ++ ". " ++ key ++ " " ++ description

def act (p : Page) (r : Interactive) (action : Action) : Dialog Reaction := do
  let t ← r.attempt.step action
  let r := { r with attempt := t.attempt, asked := none }
  match t.result with
  | .sealed id | .failed id =>
    let step := ((r.attempt.history.step? id).map p.step).getD []
    return (step ++ r.stateOf p, some r)
  | .wrongInput reason => return (p.warning reason, some r)
  | .needsInput request =>
    return (Page.lines (questionLines request), some { r with asked := some (action, request) })

def inputOf? (request : InputRequest) (answer : String) : Option Input :=
  match request.kind with
  | .choice =>
    match Text.readNat? Text.word64 answer.toList with
    | some n => some (.choice n)
    | none => (request.choices.findIdx? (·.1 == answer)).map .choice
  | .text | .selection => some (.text answer)

def takeAnswer (p : Page) (r : Interactive) (action : Action) (request : InputRequest)
    (answer : String) : Dialog Reaction :=
  let r := { r with asked := none }
  if answer.isEmpty then .done (p.info "Action cancelled", some r)
  else
    match inputOf? request answer with
    | some input => r.act p { action with inputs := action.inputs ++ [input] }
    | none => .done (Page.trouble ("Error: Unknown choice: " ++ answer), some r)

def afterMove (p : Page) (r : Interactive) (refusal : String)
    (t : Turn (Except StepFailure Bool)) : Reaction :=
  let r := { r with attempt := t.attempt }
  match t.result with
  | .ok moved => ((if moved then [] else p.warning refusal) ++ r.stateOf p, some r)
  | .error failure => (Page.trouble ("Error: " ++ failure.message), some r)

def historyOf (p : Page) (r : Interactive) : List Printed :=
  match r.attempt.history.accepted with
  | [] => p.info "No steps yet"
  | steps => steps.flatMap fun s => .result ("#" ++ toString s.id ++ " ") :: p.step s

def obey (p : Page) (r : Interactive) (name : String) (arguments : List String) :
    Dialog Reaction :=
  match name with
  | "quit" | "exit" | "q" => .done (farewell, none)
  | "help" | "h" => .done (Page.lines helpLines, some r)
  | "state" | "s" => .done (r.stateOf p, some r)
  | "history" => .done (r.historyOf p, some r)
  | "undo" | "u" => r.afterMove p "Nothing to undo" <$> r.attempt.undo
  | "redo" | "r" => r.afterMove p "Nothing to redo" <$> r.attempt.redo
  | "rewind" =>
    (fun t => r.afterMove p "" { t with result := t.result.map fun () => true }) <$>
      r.attempt.rewind
  | "goto" | "g" =>
    match arguments.head?.bind fun s => Text.readNat? Text.word64 s.toList with
    | some id => r.afterMove p "Step is not in the history" <$> r.attempt.goTo id
    | none => .done (Page.trouble "Usage: :goto <step>", some r)
  | _ =>
    .done (Page.trouble ("Unknown command: " ++ name) ++
      Page.lines ["Type :help for available commands"], some r)

def feed (p : Page) (r : Interactive) : Option String → Dialog Reaction
  | none =>
    match r.asked with
    | some _ => .done (p.info "Action cancelled", some { r with asked := none })
    | none => .done (Page.lines ["CTRL-D"] ++ farewell, none)
  | some line =>
    let line := Text.trim (TypedLine.erase line)
    match r.asked with
    | some (action, request) => r.takeAnswer p action request line
    | none =>
      if line.isEmpty then .done ([], some r)
      else
        match TypedLine.read line with
        | .error reason => .done (Page.trouble ("Error: " ++ reason), some r)
        | .ok (.command name arguments) => r.obey p name arguments
        | .ok (.action action) => r.act p action

def finish (p : Page) (r : Interactive) : Dialog (List Printed) := do
  match ← r.feed p none with
  | (printed, none) => return printed
  | (printed, some r) => return printed ++ (← r.feed p none).1

def feedAll (p : Page) (r : Interactive) : List String → Dialog (List Printed)
  | [] => r.finish p
  | line :: lines => do
    match ← r.feed p (some line) with
    | (printed, none) => return printed
    | (printed, some r) => return printed ++ (← r.feedAll p lines)

end Interactive

end ProofTutor
