import ProofTutor.Serial.Course
import ProofTutor.Step.Build
import ProofTutor.Step.Action
import ProofTutor.Tactic.Basic

/-!
Tactics, actions, branches and failures of steps as JSON.
-/

namespace ProofTutor

namespace Messages

def toMembers (m : Messages) : List (String × Json) :=
  Json.present [("success_msg", m.success.map .str), ("error_msg", m.error.map .str)]

def ofJson? (json : Json) : Option Messages := do
  return { success := ← json.optional? "success_msg" Json.str?
           error := ← json.optional? "error_msg" Json.str? }

end Messages

namespace Tactic

mutual

def toJson : Tactic → Json
  | .atomic text m => .obj ([("kind", .str "atomic"), ("text", .str text)] ++ m.toMembers)
  | .sequence children m =>
    .obj ([("kind", .str "and_then"), ("children", .arr (toJsonAll children))] ++ m.toMembers)
  | .choice number first rest m =>
    .obj ([("kind", .str "or_else"), ("children", .arr (toJson first :: toJsonAll rest))] ++
      Json.present [("number", number.map .ofNat)] ++ m.toMembers)
  | .wrap wrapper child m =>
    .obj ([("kind", .str wrapper.keyword), ("child", toJson child)] ++ m.toMembers)

def toJsonAll : List Tactic → List Json
  | [] => []
  | t :: ts => toJson t :: toJsonAll ts

end

def keywords : List String :=
  ["atomic", "and_then", "or_else"] ++ Wrapper.all.map Wrapper.keyword

def ofJsonWithin? : (fuel : Nat) → Json → Option Tactic
  | 0, _ => none
  | fuel + 1, json => do
    let m ← Messages.ofJson? json
    match ← json.required? "kind" (Json.nameOrPlace? keywords) with
    | "atomic" => return .atomic (← json.required? "text" Json.str?) m
    | "and_then" => return .sequence (← json.required? "children" (Json.list? (ofJsonWithin? fuel))) m
    | "or_else" =>
      let number ← json.optional? "number" Json.word?
      match ← json.required? "children" (Json.list? (ofJsonWithin? fuel)) with
      | [] => none
      | first :: rest => return .choice number first rest m
    | word =>
      let wrapper ← Wrapper.all.find? fun w => w.keyword == word
      return .wrap wrapper (← json.required? "child" (ofJsonWithin? fuel)) m

def ofJson? (json : Json) : Option Tactic :=
  ofJsonWithin? (json.depth + 1) json

end Tactic

namespace Input

def toJson : Input → Json
  | .choice n => .ofNat n
  | .text s => .str s

def ofJson? : Json → Option Input
  | .str s => some (.text s)
  | json => json.word?.map .choice

end Input

namespace Action

def toMembers (a : Action) : List (String × Json) :=
  Json.present [("selection", some (.ofStrings a.selection)),
    ("button", a.button.map fun b => .str b.name), ("statement", a.statement.map .str),
    ("inputs", some (.ofList Input.toJson a.inputs))]

def toJson (a : Action) : Json :=
  .obj a.toMembers

def names : List String :=
  ["selection", "button", "statement", "inputs"]

def ofJson? (blank : Json → Bool) (json : Json) : Option Action := do
  let json ← json.record? names 0
  return {
    selection := ← json.defaulted? "selection" [] (Json.list? Json.str?)
    button := ← json.optional? "button" (Json.named? blank Button.ofName?)
    statement := ← json.optional? "statement" Json.str?
    inputs := ← json.defaulted? "inputs" [] (Json.list? Input.ofJson?) }

end Action

namespace Branch

def toJson (b : Branch) : Json :=
  .obj [("label", .str b.label), ("status", .str b.status.name)]

def ofJson? (json : Json) : Option Branch := do
  return {
    label := ← json.required? "label" Json.str?
    status := ← json.required? "status" <| Json.named? Json.isNull fun name =>
      BranchStatus.all.find? fun status => status.name == name }

end Branch

namespace InputRequest

def toJson (r : InputRequest) : Json :=
  let kind := match r.kind with
    | .choice => "choice"
    | .text => "text"
    | .selection => "selection"
  .obj [("kind", .str kind), ("prompt", .str r.prompt),
    ("choices", .ofList (fun (key, text) => .arr [.str key, .str text]) r.choices)]

end InputRequest

namespace StepFailure

def toJson : StepFailure → Json
  | .rejected message line =>
    .obj [("ProverRequestFailed", .obj [("message", .str message), ("line", .ofNat? line)])]
  | .timeout => .str "Timeout"
  | .undecodable reason => .obj [("Decoding", .str reason)]
  | .crashed reason => .obj [("ProverCrashed", .str reason)]
  | .noProofState => .str "NoProofState"

def ofJson? : Json → Option StepFailure
  | .str "Timeout" => some .timeout
  | .str "NoProofState" => some .noProofState
  | .obj [("ProverRequestFailed", json)] => do
    return .rejected (← json.required? "message" Json.str?) (← json.optional? "line" Json.word?)
  | .obj [("Decoding", .str reason)] => some (.undecodable reason)
  | .obj [("ProverCrashed", .str reason)] => some (.crashed reason)
  | _ => none

end StepFailure

end ProofTutor
