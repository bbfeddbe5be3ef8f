import ProofTutor.Serial.Course
import ProofTutor.Serial.Step
import ProofTutor.Term.Introspection

/-!
Short views of terms, goals and failures as JSON: what is displayed, not what is stored.
-/

namespace ProofTutor

namespace Term

def summary (t : Term) : List (String × Json) :=
  [("object", t.toJson), ("utf8", .str t.display), ("introspection", .str t.written)]

end Term

namespace Goal

def summary (g : Goal) : Json :=
  let position (p : Position) := Json.arr [.ofNat? p.step, .ofNat p.goal, .ofNat p.index]
  let entry (e : Entry) := Json.obj [("name", .str e.name), ("id", .ofOption .str e.identifier?),
    ("prop", .bool e.isProp), ("tag", .str e.change.name), ("origin", .ofNat? e.origin),
    ("position", position e.position)]
  .obj [("display", .str g.display), ("context", .ofList entry g.context),
    ("pp", .ofOption .str g.targetText), ("unique_names", .bool g.hasUniqueNames)]

end Goal

namespace ProofState

def summary (s : ProofState) : Json :=
  .ofList Goal.summary s.goals

end ProofState

namespace GoalDiff

def summary (d : GoalDiff) : Json :=
  let displays (es : List Entry) := Json.ofList (fun e => .str e.display) es
  .obj [("new", displays d.added), ("removed", displays d.removed),
    ("modified", .ofList (fun (a, b) => .arr [.str a.display, .str b.display]) d.modified),
    ("target_changed", .bool d.targetChanged),
    ("targets", .ofOption (fun (a, b) => .arr [.str a.display, .str b.display]) d.targets)]

end GoalDiff

namespace StepFailure

def kind : StepFailure → String
  | .rejected _ _ => "prover_request_failed"
  | .timeout => "timeout"
  | .undecodable _ => "decoding"
  | .crashed _ => "prover_crashed"
  | .noProofState => "no_proof_state"

def summary (f : StepFailure) : Json :=
  .obj [("error", .str f.kind), ("message", .str f.message), ("exit_code", .ofNat f.exitCode.code)]

end StepFailure

end ProofTutor
