import ProofTutor.Attempt.Basic
import ProofTutor.Cli.Arguments
import ProofTutor.Json.Printer
import ProofTutor.Serial.Course
import ProofTutor.Serial.History
import ProofTutor.Settings.File

/-!
What the program prints: everything either as lines of text or as JSON values.
-/

namespace ProofTutor

inductive Printed where
  | result (text : String)
  | trouble (text : String)
  deriving DecidableEq, Repr, Inhabited

namespace Printed

def results (output : List Printed) : String :=
  String.join (output.map fun
    | .result text => text
    | .trouble _ => "")

end Printed

structure Page where
  form : OutputForm := .text
  display : DisplaySettings := {}
  deriving DecidableEq, Repr, Inhabited

namespace Page

def lines (ls : List String) : List Printed :=
  [.result (String.join (ls.map (· ++ "\n")))]

def json (value : Json) : List Printed :=
  [.result (value.pretty ++ "\n")]

def trouble (text : String) : List Printed :=
  [.trouble (text ++ "\n")]

def either (p : Page) (text : List Printed) (value : Json) : List Printed :=
  match p.form with
  | .text => text
  | .json => json value

def levelled (level message : String) : Json :=
  .obj [("level", .str level), ("message", .str message)]

def warning (p : Page) (message : String) : List Printed :=
  p.either (lines ["Warning: " ++ message]) (levelled "warning" message)

def info (p : Page) (message : String) : List Printed :=
  p.either (lines ["ℹ " ++ message]) (levelled "info" message)

def error (p : Page) (message : String) : List Printed :=
  p.either (trouble ("Error: " ++ message)) (levelled "error" message)

def entryLine (p : Page) (e : Entry) : String :=
  "    " ++ e.name ++ " : " ++ e.type.render p.display.format p.display.depth

def entryLines (p : Page) (title : String) (entries : List Entry) : List String :=
  if entries.isEmpty then [] else ("  " ++ title ++ ":") :: entries.map p.entryLine

def goalLines (p : Page) (index : Nat) (g : Goal) : List String :=
  let title := if index = 0 then "Main goal" else "Goal"
  ["", "  " ++ title ++ " " ++ toString (index + 1)] ++ p.entryLines "Objects" g.objects ++
    p.entryLines "Properties" g.propositions ++
    ["  Target:", "    " ++ g.target.render p.display.format p.display.depth]

def stateLines (p : Page) (s : ProofState) : List String :=
  if s.isComplete then ["", "✓ No goals remaining (QED)", ""]
  else
    ["", "Goals (" ++ toString s.goalCount ++ "):"] ++ (s.goals.mapIdx p.goalLines).flatten ++ [""]

def state (p : Page) (s : ProofState) : List Printed :=
  p.either (lines (p.stateLines s)) s.toJson

def stepLines (s : Step) : List String :=
  let head := match s.failure, s.success with
    | some failure, _ => "✗ " ++ failure.message
    | none, some message => "✓ " ++ message
    | none, none => "✓"
  let code := (s.effective.or s.code).map fun t => "  code: " ++ t.source true
  let goals := if s.goalStack.isEmpty then [] else ["  goals: " ++ Text.join " | " s.goalStack]
  head :: code.toList ++ goals

def step (p : Page) (s : Step) : List Printed :=
  p.either (lines (stepLines s)) s.toJson

def initialState (p : Page) (name : String) : Except StepFailure ProofState → List String
  | .ok s => name :: p.stateLines s
  | .error failure => [name, "  ✗ " ++ failure.message, ""]

def initialStateJson (name : String) (state : Except StepFailure ProofState) : Json :=
  let result := match state with
    | .ok s => ("Ok", s.toJson)
    | .error failure => ("Err", failure.toJson)
  .obj [("lean_name", .str name), ("state", .obj [result])]

def initialStates (p : Page) (states : List (Exercise × Except StepFailure ProofState)) :
    List Printed :=
  p.either (lines (states.flatMap fun (e, s) => p.initialState e.name s))
    (.ofList (fun (e, s) => initialStateJson e.name s) states)

def recordLine (r : ReplayRecord) : String :=
  let mark := if r.ok then "✓" else "✗"
  let step := (r.step.map fun id => " step " ++ toString id).getD ""
  let message := (r.message.map (": " ++ ·)).getD ""
  mark ++ " [" ++ toString r.index ++ "]" ++ step ++ message ++ " (history " ++
    toString r.cursor ++ ")"

def record (p : Page) (r : ReplayRecord) : List Printed :=
  p.either (lines [recordLine r]) r.toJson

def replaySummary (p : Page) (r : ReplayReport) : List Printed :=
  let failed := (r.records.filter (!·.ok)).length
  let verdict := if r.complete then "✓ Proof complete" else "Proof incomplete"
  let count :=
    if failed = 0 then []
    else [toString failed ++ " of " ++ toString r.records.length ++ " entries failed"]
  p.either (lines (["", verdict] ++ count))
    (.obj [("exit_code", .ofNat r.exitCode.code), ("complete", .bool r.complete),
      ("failed", .ofNat failed)])

def aligned (name : String) : String :=
  .ofList (List.replicate (5 - name.length) ' ') ++ name

def rendering (p : Page) (t : Term) : List Printed :=
  let text (f : Format) := t.render f p.display.depth
  p.either
    (lines ([Format.utf8, .text, .html, .source].map fun f => aligned f.name ++ ": " ++ text f))
    (.obj ([Format.html, .source, .text, .utf8].map fun f => (f.name, .str (text f))))

def exercises (p : Page) (es : List Exercise) : List Printed :=
  let line (e : Exercise) :=
    "  " ++ e.name ++ " (lines " ++ toString e.beginLine ++ "-" ++ toString e.endLine ++ ")"
  p.either (lines ("Exercises:" :: es.map line)) (.ofList Exercise.toJson es)

end Page

end ProofTutor
