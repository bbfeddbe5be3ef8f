import ProofTutor.Attempt.Basic
import ProofTutor.Json.Reader
import ProofTutor.Serial.Step

/-!
Histories, scripts and reports of replays as JSON. In a script no member that matters is named twice.
-/

namespace ProofTutor

namespace Step

def toJson (s : Step) : Json :=
  .obj [("id", .ofNat s.id), ("action", s.action.toJson), ("code", .ofOption Tactic.toJson s.code),
    ("effective_code", .ofOption Tactic.toJson s.effective),
    ("submitted", .ofOption .str s.submitted), ("before", .ofNat s.before),
    ("after", .ofNat? s.after), ("goal_index", .ofNat s.goalIndex),
    ("total_goals", .ofNat s.totalGoals), ("property_counter", .ofNat s.counter),
    ("success_msg", .ofOption .str s.success), ("error", .ofOption StepFailure.toJson s.failure),
    ("branches", .ofList Branch.toJson s.branches), ("goal_stack", .ofStrings s.goalStack),
    ("parent", .ofNat? s.parent), ("children", .ofList .ofNat s.children),
    ("completes_proof", .bool s.completesProof)]

def ofJson? (json : Json) : Option Step := do
  let _ ← json.members?
  return {
    id := ← json.required? "id" Json.word?
    action := ← json.required? "action" (Action.ofJson? Json.isNull)
    code := ← json.optional? "code" Tactic.ofJson?
    effective := ← json.optional? "effective_code" Tactic.ofJson?
    submitted := ← json.optional? "submitted" Json.str?
    before := ← json.required? "before" Json.word?
    after := ← json.optional? "after" Json.word?
    goalIndex := ← json.required? "goal_index" Json.word?
    totalGoals := ← json.required? "total_goals" Json.word?
    counter := ← json.required? "property_counter" Json.word?
    success := ← json.optional? "success_msg" Json.str?
    failure := ← json.optional? "error" StepFailure.ofJson?
    branches := ← json.required? "branches" (Json.list? Branch.ofJson?)
    goalStack := ← json.required? "goal_stack" (Json.list? Json.str?)
    parent := ← json.optional? "parent" Json.word?
    children := ← json.required? "children" (Json.list? Json.word?)
    completesProof := ← json.required? "completes_proof" Json.bool? }

end Step

namespace History

def toJson (h : History) : Json :=
  .obj [("states", .ofList ProofState.toJson h.states), ("steps", .ofList Step.toJson h.steps),
    ("initial_goal_stack", .ofStrings h.initialStack), ("history", .ofList .ofNat h.line),
    ("cursor", .ofNat h.cursor)]

def ofJson? (json : Json) : Option History := do
  let _ ← json.members?
  return {
    states := ← json.required? "states" (Json.list? ProofState.ofJson?)
    steps := ← json.required? "steps" (Json.list? Step.ofJson?)
    initialStack := ← json.required? "initial_goal_stack" (Json.list? Json.str?)
    line := ← json.required? "history" (Json.list? Json.word?)
    cursor := ← json.required? "cursor" Json.word? }

end History

namespace ScriptEntry

def toJson : ScriptEntry → Json
  | .step a => .obj (("type", .str "step") :: a.toMembers)
  | .undo => .obj [("type", .str "undo")]
  | .redo => .obj [("type", .str "redo")]
  | .rewind => .obj [("type", .str "rewind")]
  | .goTo id => .obj [("type", .str "go_to"), ("step", .ofNat id)]

def ofJson? (json : Json) : Option ScriptEntry := do
  let (type, rest) ← json.tagged? "type"
  match type with
  | "step" =>
    guard (rest.namesOnce Action.names)
    return .step (← Action.ofJson? Json.isNothing rest)
  | "undo" => rest.record? [] 0 *> return .undo
  | "redo" => rest.record? [] 0 *> return .redo
  | "rewind" => rest.record? [] 0 *> return .rewind
  | "go_to" =>
    guard (rest.namesOnce ["step"])
    return .goTo (← (← rest.record? ["step"] 1).required? "step" Json.word?)
  | _ => none

end ScriptEntry

namespace Script

def toJson (s : Script) : Json :=
  .obj [("exercise", .str s.exercise), ("entries", .ofList ScriptEntry.toJson s.entries)]

def names : List String := ["exercise", "entries"]

def ofJson? (json : Json) : Option Script := do
  let json ← json.record? names 2
  guard (json.namesOnce names)
  return {
    exercise := ← json.required? "exercise" Json.str?
    entries := ← json.required? "entries" (Json.list? ScriptEntry.ofJson?) }

def read? (text : String) : Option Script :=
  (Json.readExcerpt? names text).bind ofJson?

end Script

namespace ReplayRecord

def toJson (r : ReplayRecord) : Json :=
  .obj [("index", .ofNat r.index), ("step", .ofNat? r.step), ("ok", .bool r.ok),
    ("message", .ofOption .str r.message), ("history_cursor", .ofNat r.cursor)]

end ReplayRecord

namespace ReplayReport

def toJson (r : ReplayReport) : Json :=
  .obj [("records", .ofList ReplayRecord.toJson r.records), ("exit_code", .str r.exitCode.name),
    ("complete", .bool r.complete)]

end ReplayReport

end ProofTutor
