import ProofTutor.Term.Naming
import ProofTutor.Term.Display
import ProofTutor.Text.Basic
import ProofTutor.Toml.Reader

/-!
The settings of the tutor, each with a default, and their TOML file. What the file does not set keeps
its default, and what is unknown in it does not matter; a setting of the wrong kind spoils the file.
-/

namespace ProofTutor

structure ProverSettings where
  executable : String := "lean"
  arguments : List String := ["--json", "--server"]
  libraryPaths : List String := []
  timeoutSeconds : Nat := 30
  startupSeconds : Nat := 60
  slots : Nat := 1024
  listenerCapacity : Nat := 1024
  fileName? : Option String := none
  deriving DecidableEq, Repr, Inhabited

namespace ProverSettings

def fileName (s : ProverSettings) : String :=
  s.fileName?.getD "exercise.lean"

end ProverSettings

structure DisplaySettings where
  format : Format := .utf8
  depth : Option Nat := none
  deriving DecidableEq, Repr, Inhabited

structure Settings where
  prover : ProverSettings := {}
  naming : Naming := {}
  display : DisplaySettings := {}
  deriving DecidableEq, Repr, Inhabited

/-! ### The file -/

namespace Toml

def str? : Toml → Option String
  | .str text => some text
  | _ => none

def bool? : Toml → Option Bool
  | .bool value => some value
  | _ => none

def strings? : Toml → Option (List String)
  | .arr items => items.mapM str?
  | _ => none

def word? : Toml → Option Nat
  | .int value => if 0 ≤ value ∧ value < Text.word64 then some value.toNat else none
  | _ => none

def group? (names : List String) : Toml → Option (List (String × Toml))
  | .table members => some members
  | .arr items => some (names.zip items)
  | .datetime _ => some []
  | _ => none

def setting? {α : Type} (members : List (String × Toml)) (name : String) (default : α)
    (decode : Toml → Option α) : Option α :=
  match members.find? (·.1 == name) with
  | some (_, value) => decode value
  | none => some default

end Toml

namespace ProverSettings

def names : List String :=
  ["executable", "args", "library_paths", "timeout_secs", "startup_timeout_secs",
    "seq_pool_capacity", "listener_capacity", "file_name"]

def ofToml? (toml : Toml) : Option ProverSettings := do
  let group ← toml.group? names
  let d : ProverSettings := {}
  return {
    executable := ← Toml.setting? group "executable" d.executable Toml.str?
    arguments := ← Toml.setting? group "args" d.arguments Toml.strings?
    libraryPaths := ← Toml.setting? group "library_paths" d.libraryPaths Toml.strings?
    timeoutSeconds := ← Toml.setting? group "timeout_secs" d.timeoutSeconds Toml.word?
    startupSeconds := ← Toml.setting? group "startup_timeout_secs" d.startupSeconds Toml.word?
    slots := ← Toml.setting? group "seq_pool_capacity" d.slots Toml.word?
    listenerCapacity := ← Toml.setting? group "listener_capacity" d.listenerCapacity Toml.word?
    fileName? := ← Toml.setting? group "file_name" none fun value => value.str?.map some }

end ProverSettings

namespace Naming

def names : List String := ["allow_double_prime", "use_prover_names"]

def ofToml? (toml : Toml) : Option Naming := do
  let group ← toml.group? names
  return {
    allowDoublePrime := ← Toml.setting? group "allow_double_prime" true Toml.bool?
    useProverNames := ← Toml.setting? group "use_prover_names" true Toml.bool? }

end Naming

namespace DisplaySettings

def names : List String := ["format", "depth"]

def format? (toml : Toml) : Option Format :=
  let ofName? (name : String) := Format.all.find? (·.name == name)
  match toml with
  | .str name => ofName? name
  | .table [(name, .arr [])] | .table [(name, .table [])] => ofName? name
  | _ => none

def ofToml? (toml : Toml) : Option DisplaySettings := do
  let group ← toml.group? names
  return {
    format := ← Toml.setting? group "format" .utf8 format?
    depth := ← Toml.setting? group "depth" none fun value => value.word?.map some }

end DisplaySettings

namespace Settings

def refusal : String := "Invalid driver configuration"

def read? (text : String) : Option Settings := do
  let group ← Toml.read? text
  return {
    prover := ← Toml.setting? group "prover" {} ProverSettings.ofToml?
    naming := ← Toml.setting? group "naming" {} Naming.ofToml?
    display := ← Toml.setting? group "display" {} DisplaySettings.ofToml? }

end Settings

end ProofTutor
