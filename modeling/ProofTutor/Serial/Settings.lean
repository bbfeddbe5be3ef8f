import ProofTutor.Serial.Course
import ProofTutor.Settings.File

/-!
Settings as JSON.
-/

namespace ProofTutor

namespace Naming

def ofJson? (json : Json) : Option Naming := do
  let json ← json.record? ["allow_double_prime", "use_prover_names"] 0
  return {
    allowDoublePrime := ← json.defaulted? "allow_double_prime" true Json.bool?
    useProverNames := ← json.defaulted? "use_prover_names" true Json.bool? }

def toJson (n : Naming) : Json :=
  .obj [("allow_double_prime", .bool n.allowDoublePrime),
    ("use_prover_names", .bool n.useProverNames)]

end Naming

namespace ProverSettings

def ofJson? (json : Json) : Option ProverSettings := do
  let json ← json.record? ["executable", "args", "library_paths", "timeout_secs",
    "startup_timeout_secs", "seq_pool_capacity", "listener_capacity", "file_name"] 0
  let d : ProverSettings := {}
  return {
    executable := ← json.defaulted? "executable" d.executable Json.str?
    arguments := ← json.defaulted? "args" d.arguments (Json.list? Json.str?)
    libraryPaths := ← json.defaulted? "library_paths" d.libraryPaths (Json.list? Json.str?)
    timeoutSeconds := ← json.defaulted? "timeout_secs" d.timeoutSeconds Json.word?
    startupSeconds := ← json.defaulted? "startup_timeout_secs" d.startupSeconds Json.word?
    slots := ← json.defaulted? "seq_pool_capacity" d.slots Json.word?
    listenerCapacity := ← json.defaulted? "listener_capacity" d.listenerCapacity Json.word?
    fileName? := ← json.optional? "file_name" Json.str? }

def toJson (s : ProverSettings) : Json :=
  .obj [("executable", .str s.executable), ("args", .ofStrings s.arguments),
    ("library_paths", .ofStrings s.libraryPaths), ("timeout_secs", .ofNat s.timeoutSeconds),
    ("startup_timeout_secs", .ofNat s.startupSeconds), ("seq_pool_capacity", .ofNat s.slots),
    ("listener_capacity", .ofNat s.listenerCapacity),
    ("file_name", .ofOption .str s.fileName?)]

end ProverSettings

namespace Settings

def toJson (s : Settings) : Json :=
  .obj [("prover", s.prover.toJson), ("naming", s.naming.toJson),
    ("display", .obj [("format", .str s.display.format.name), ("depth", .ofNat? s.display.depth)])]

end Settings

end ProofTutor
