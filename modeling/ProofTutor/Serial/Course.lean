import ProofTutor.Course.Scan
import ProofTutor.Goal.Basic
import ProofTutor.Serial.Shape

/-!
Proof states, their differences and the exercises of a course as JSON.
-/

namespace ProofTutor

/-! ### Proof states -/

namespace Change

def name : Change → String
  | .new => "new"
  | .modified => "modified"
  | .unchanged => "unchanged"

def all : List Change := [.new, .modified, .unchanged]

def ofJson? : Json → Option Change :=
  Json.named? Json.isNull fun name => all.find? fun c => c.name == name

end Change

namespace Position

def toJson (p : Position) : Json :=
  .obj [("step_index", .ofNat? p.step), ("goal", .ofNat p.goal), ("index", .ofNat p.index)]

def ofJson? (json : Json) : Option Position := do
  let json ← json.record? ["step_index", "goal", "index"] 3
  return {
    step := ← json.optional? "step_index" Json.word?
    goal := ← json.required? "goal" Json.word?
    index := ← json.required? "index" Json.word? }

end Position

namespace Entry

def toJson (e : Entry) : Json :=
  .obj [("math_object", e.term.toJson), ("origin", .ofNat? e.origin), ("tag", .str e.change.name),
    ("position", e.position.toJson)]

def ofJson? (json : Json) : Option Entry := do
  let json ← json.record? ["math_object", "origin", "tag", "position"] 4
  return {
    term := ← json.required? "math_object" Term.ofJson?
    origin := ← json.optional? "origin" Json.word?
    change := ← json.required? "tag" Change.ofJson?
    position := ← json.required? "position" Position.ofJson? }

end Entry

namespace Goal

def toJson (g : Goal) : Json :=
  .obj <| [("context", .ofList Entry.toJson g.context), ("target", g.target.toJson)] ++
    Json.present [("target_pp", g.targetText.map .str)]

def ofJson? (json : Json) : Option Goal := do
  let json ← json.record? ["context", "target", "target_pp"] 2
  return {
    context := ← json.required? "context" (Json.list? Entry.ofJson?)
    target := ← json.required? "target" Term.ofJson?
    targetText := ← json.optional? "target_pp" Json.str? }

end Goal

namespace ProofState

def toJson (s : ProofState) : Json :=
  .obj [("goals", .ofList Goal.toJson s.goals)]

def ofJson? (json : Json) : Option ProofState := do
  let json ← json.record? ["goals"] 1
  return { goals := ← json.required? "goals" (Json.list? Goal.ofJson?) }

end ProofState

namespace GoalDiff

def toJson (d : GoalDiff) : Json :=
  .obj [("context_new", .ofList Entry.toJson d.added),
    ("context_removed", .ofList Entry.toJson d.removed),
    ("context_modified", .ofList (fun (a, b) => .arr [a.toJson, b.toJson]) d.modified),
    ("target_changed", .bool d.targetChanged),
    ("targets", .ofOption (fun (a, b) => .arr [a.toJson, b.toJson]) d.targets)]

end GoalDiff

end ProofTutor

/-! ### Exercises -/

namespace ProofTutor.Exercise

def toJson (e : Exercise) : Json :=
  .obj <| [("lean_name", .str e.name), ("begin_line", .ofNat e.beginLine),
    ("end_line", .ofNat e.endLine), ("negate", .bool e.negate)] ++
    Json.present [("core_statement", e.coreStatement.map .str)]

def ofJson? (json : Json) : Option Exercise := do
  let json ← json.record? ["lean_name", "begin_line", "end_line", "negate", "core_statement"] 3
  return {
    name := ← json.required? "lean_name" Json.str?
    beginLine := ← json.required? "begin_line" Json.word?
    endLine := ← json.required? "end_line" Json.word?
    negate := ← json.defaulted? "negate" false Json.bool?
    coreStatement := ← json.optional? "core_statement" Json.str? }

end ProofTutor.Exercise
