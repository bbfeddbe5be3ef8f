import ProofTutor.Prover.Basic
import ProofTutor.Serial.Dump

/-!
Scripts of rehearsed provers as JSON. A failure is the word `crash` or a member `fail`.
-/

namespace ProofTutor

namespace Json

def pair? {α β : Type} (first : Json → Option α) (second : Json → Option β) (json : Json) :
    Option (α × β) :=
  match json with
  | .arr [a, b] => do return (← first a, ← second b)
  | _ => none

end Json

namespace ProverFailure

def ofKind? (kind : String) (argument : Json) : Option ProverFailure :=
  match kind with
  | "crash" => some .closed
  | "timeout" =>
    some (.timeout ((argument.required? "seq" Json.word?).getD 0)
      ⟨(argument.required? "ms" Json.word?).getD 30000⟩)
  | "request_error" => argument.str?.map .refused
  | "startup" => argument.str?.map .startup
  | "io" => argument.str?.map .unwritable
  | _ => none

def ofJson? (json : Json) : Option ProverFailure :=
  match json with
  | .str kind => if kind = "crash" then some .closed else none
  | json =>
    match json.member? "fail" with
    | some (.obj [(kind, argument)]) => ofKind? kind argument
    | some (.str kind) => if kind = "crash" then some .closed else none
    | _ => none

end ProverFailure

namespace Spot

def ofJson? : Json → Option Spot
  | .str "hypo" => some .context
  | .str "targets" => some .targets
  | .str "end" => some .ending
  | .str "last" => some .last
  | .str word => some (.starting word)
  | json => json.word?.map .line

end Spot

namespace Rehearsed

def remark? : Json → Option (Spot × Severity × String)
  | .arr [spot, severity, .str text] => do
    return (← Spot.ofJson? spot, ← Json.named? Json.isNull Severity.ofName? severity, text)
  | _ => none

def ofJson? (json : Json) : Option Rehearsed := do
  let _ ← json.members?
  let dumps := do
    return (← json.required? "hypo" Json.str?, ← json.required? "targets" Json.str?)
  let noGoals ← json.optional? "no_goals" Json.bool?
  return {
    fired := ← json.defaulted? "fired" [] (Json.list? (Json.pair? Json.word? Json.word?))
    messages := ← json.defaulted? "messages" [] (Json.list? remark?)
    dumps
    error := ← json.optional? "error" Json.str?
    noGoals := noGoals.getD false }

end Rehearsed

namespace Rehearsal

def answer? (json : Json) : Option (Except ProverFailure Rehearsed) :=
  match ProverFailure.ofJson? json with
  | some failure => some (.error failure)
  | none => (Rehearsed.ofJson? json).map .ok

def restart (json : Json) : Except ProverFailure Unit :=
  match ProverFailure.ofJson? json with
  | some failure => .error failure
  | none => .ok ()

def ofJson? (json : Json) : Option Rehearsal := do
  return {
    answers := ← json.defaulted? "answers" [] (Json.list? answer?)
    restarts := (← json.defaulted? "restarts" [] Json.arr?).map restart }

end Rehearsal

end ProofTutor
