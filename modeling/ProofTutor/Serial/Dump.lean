import ProofTutor.Dump.Goals
import ProofTutor.Json.Basic
import ProofTutor.Prover.Basic
import ProofTutor.Serial.Course

/-!
Messages of the prover as JSON, and what the dumps in them are read as.
-/

namespace ProofTutor.Message

/-! ### Messages -/

def toJson (m : Message) : Json :=
  .obj [("file_name", .str m.file), ("pos_line", .ofNat m.line), ("pos_col", .ofNat m.column),
    ("severity", .str m.severity.name), ("caption", .str m.caption), ("text", .str m.text)]

def names : List String :=
  ["file_name", "pos_line", "pos_col", "severity", "caption", "text"]

def ofJson? (blank : Json → Bool) (json : Json) : Option Message := do
  let json ← json.record? names 6
  return {
    file := ← json.required? "file_name" Json.str?
    line := ← json.required? "pos_line" Json.word?
    column := ← json.required? "pos_col" Json.word?
    severity := ← json.required? "severity" (Json.named? blank Severity.ofName?)
    caption := ← json.defaulted? "caption" "" Json.str?
    text := ← json.required? "text" Json.str? }

end ProofTutor.Message

/-! ### Dumps -/

namespace ProofTutor

namespace Tree

def toJson : Tree → Json
  | ⟨tag, info, children⟩ =>
    .obj [("tag", .str tag), ("info", .ofList (fun (key, value) => .arr [.str key, .str value]) info),
      ("children", .arr (children.map toJson))]

end Tree

namespace Record

def toJson (r : Record) : Json :=
  let kind := match r.kind with
    | .object => "object"
    | .property => "property"
  .obj [("kind", .str kind), ("head", r.head.toJson), ("tail", r.tail.toJson)]

end Record

namespace Warning

def toJson (w : Warning) : Json :=
  .obj [("message", .str w.message), ("sample", .str w.sample)]

end Warning

end ProofTutor
