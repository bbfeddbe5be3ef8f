import ProofTutor.Json.Printer
import ProofTutor.Json.Reader
import ProofTutor.Serial.Course
import ProofTutor.Serial.Dump
import ProofTutor.Session.Basic

/-!
What happens in a session as JSON: events and results, and the requests and responses as lines. A line
in which a member that matters is named twice is no response.
-/

namespace ProofTutor

/-! ### Events and results -/

namespace SessionEvent

def toJson : SessionEvent → Json
  | .messages batch => .obj [("messages", .ofList (fun m => .str m.text) batch)]
  | .phase p => .obj [("state", .str p.name)]
  | .tasks running => .obj [("tasks", .bool running)]
  | .exited => .str "exited"

end SessionEvent

namespace Finding

def toJson : Finding → Json
  | .reply r => .obj [("seq_num", .ofNat r.number), ("message", .ofOption .str r.message)]
  | .messages found => .ofList Message.toJson found
  | .ready => .null

end Finding

namespace ProverFailure

def kind : ProverFailure → String
  | .startup _ => "startup_failed"
  | .timeout _ _ => "timeout"
  | .refused _ => "request_error"
  | .closed => "channel_closed"
  | .unwritable _ => "io"

def toJson (e : ProverFailure) : Json :=
  let message := match e with
    | .unwritable _ => none
    | e => some (Json.str e.message)
  .obj (Json.present [("error", some (.str e.kind)), ("message", message)])

end ProverFailure

def callToJson : Except ProverFailure Finding → Json
  | .ok finding => .obj [("ok", finding.toJson)]
  | .error e => e.toJson

/-! ### Requests and responses -/

namespace Command

def members : Command → List (String × Json)
  | .sync file content =>
    [("command", .str "sync"), ("file_name", .str file), ("content", .str content)]
  | .information file line column =>
    [("command", .str "info"), ("file_name", .str file), ("line", .ofNat line),
      ("column", .ofNat column)]

def ofJson? (json : Json) : Option Command := do
  match ← json.required? "command" (Json.nameOrPlace? ["sync", "info"]) with
  | "sync" =>
    return .sync (← json.required? "file_name" Json.str?) (← json.required? "content" Json.str?)
  | "info" =>
    return .information (← json.required? "file_name" Json.str?)
      (← json.required? "line" Json.word?) (← json.required? "column" Json.word?)
  | _ => none

end Command

namespace Request

def toJson (r : Request) : Json :=
  .obj (("seq_num", .ofNat r.number) :: r.command.members)

def ofJson? (json : Json) : Option Request := do
  let _ ← json.members?
  return {
    number := ← json.required? "seq_num" Json.word?
    command := ← Command.ofJson? json }

def line (r : Request) : String :=
  r.toJson.compact ++ "\n"

end Request

namespace ProverTask

def toJson (t : ProverTask) : Json :=
  .obj [("file_name", .str t.file), ("pos_line", .ofNat t.line), ("pos_col", .ofNat t.column),
    ("end_pos_line", .ofNat t.endLine), ("end_pos_col", .ofNat t.endColumn),
    ("desc", .str t.description)]

def names : List String :=
  ["file_name", "pos_line", "pos_col", "end_pos_line", "end_pos_col", "desc"]

def ofJson? (json : Json) : Option ProverTask := do
  let json ← json.record? names 3
  guard (json.namesOnce names)
  return {
    file := ← json.required? "file_name" Json.str?
    line := ← json.required? "pos_line" Json.word?
    column := ← json.required? "pos_col" Json.word?
    endLine := ← json.defaulted? "end_pos_line" 0 Json.word?
    endColumn := ← json.defaulted? "end_pos_col" 0 Json.word?
    description := ← json.defaulted? "desc" "" Json.str? }

end ProverTask

namespace Response

def toJson : Response → Json
  | .accepted number message =>
    .obj (Json.present [("response", some (.str "ok")), ("seq_num", some (.ofNat number)),
      ("message", message.map .str)])
  | .refused number message =>
    .obj (Json.present [("response", some (.str "error")), ("seq_num", number.map .ofNat),
      ("message", some (.str message))])
  | .messages batch =>
    .obj [("response", .str "all_messages"), ("msgs", .ofList Message.toJson batch)]
  | .tasks running list =>
    .obj [("response", .str "current_tasks"), ("is_running", .bool running),
      ("tasks", .ofList ProverTask.toJson list)]
  | .other => .obj [("response", .str "unknown")]

def message? (json : Json) : Option Message := do
  guard (json.namesOnce Message.names)
  Message.ofJson? Json.isNothing json

def record? (names : List String) (least : Nat) (json : Json) : Option Json := do
  guard (json.namesOnce names)
  json.record? names least

def ofJson? (json : Json) : Option Response := do
  let (tag, json) ← json.tagged? "response"
  match tag with
  | "ok" =>
    let json ← record? ["seq_num", "message"] 1 json
    return .accepted (← json.required? "seq_num" Json.word?)
      (← json.optional? "message" Json.str?)
  | "error" =>
    let json ← record? ["seq_num", "message"] 2 json
    return .refused (← json.optional? "seq_num" Json.word?)
      (← json.required? "message" Json.str?)
  | "all_messages" =>
    let json ← record? ["msgs"] 1 json
    return .messages (← json.required? "msgs" (Json.list? message?))
  | "current_tasks" =>
    let json ← record? ["is_running", "tasks"] 1 json
    return .tasks (← json.required? "is_running" Json.bool?)
      (← json.defaulted? "tasks" [] (Json.list? ProverTask.ofJson?))
  | _ => json.record? [] 0 *> return .other

def ofLine? (line : String) : Option Response :=
  (Json.read? line).bind ofJson?

end Response

end ProofTutor
