import ProofTutor.Prover.Basic
import ProofTutor.Settings.File

/-!
A session with a prover: several calls at a time send it numbered requests and wait for the replies.

A call needs a slot to send its request, gets the next number, and is registered under the number
until the reply comes, the time is up or the session ends. Calls go on one step at a time and in any
order, so a run of a session is any sequence of moves. A check is finished when the prover has begun to
work and is then idle again, and its messages are those of the last batch until then.
-/

namespace ProofTutor

/-! ### Requests and responses -/

inductive Command where
  | sync (file content : String)
  | information (file : String) (line column : Nat)
  deriving DecidableEq, Repr, Inhabited

namespace Command

def name : Command → String
  | .sync _ _ => "sync"
  | .information _ _ _ => "info"

end Command

structure Request where
  number : Nat
  command : Command
  deriving DecidableEq, Repr, Inhabited

structure ProverTask where
  file : String
  line : Nat
  column : Nat
  endLine : Nat := 0
  endColumn : Nat := 0
  description : String := ""
  deriving DecidableEq, Repr, Inhabited

inductive Response where
  | accepted (number : Nat) (message : Option String)
  | refused (number : Option Nat) (message : String)
  | messages (batch : List Message)
  | tasks (running : Bool) (tasks : List ProverTask)
  | other
  deriving DecidableEq, Repr, Inhabited

/-! ### Events -/

inductive Phase where
  | idle | starting | ready | active | stopped
  deriving DecidableEq, Repr, Inhabited

namespace Phase

def name : Phase → String
  | .idle => "idle"
  | .starting => "starting"
  | .ready => "ready"
  | .active => "active"
  | .stopped => "stopped"

end Phase

inductive SessionEvent where
  | messages (batch : List Message)
  | phase (phase : Phase)
  | tasks (running : Bool)
  | exited
  deriving DecidableEq, Repr, Inhabited

def unheard (capacity heard : Nat) (events : List SessionEvent) : Nat × List SessionEvent :=
  let news := events.drop heard
  let lost := news.length - capacity
  (lost, news.drop lost)

structure Progress where
  started : Bool := false
  messages : List Message := []
  deriving DecidableEq, Repr, Inhabited

inductive Heard where
  | unfinished (progress : Progress)
  | finished (messages : List Message)
  | closed
  deriving DecidableEq, Repr, Inhabited

namespace Progress

def about (file : String) (batch : List Message) : List Message :=
  batch.filter fun m => m.file.isEmpty || m.file == file

/-- Follows the events until one ends the check. A report that the prover is idle ends it only if
the prover has begun to work. -/
def follow (file : String) (p : Progress) : List SessionEvent → Heard
  | [] => .unfinished p
  | event :: events =>
    match event with
    | .messages batch => follow file { p with messages := about file batch } events
    | .tasks true | .phase .active => follow file { p with started := true } events
    | .tasks false | .phase .ready =>
      if p.started then .finished p.messages else follow file p events
    | .exited | .phase .stopped => .closed
    | .phase .idle | .phase .starting => follow file p events

end Progress

/-! ### Sessions -/

structure Reply where
  number : Nat
  message : Option String
  deriving DecidableEq, Repr, Inhabited

inductive Job where
  | information (line column : Nat)
  | check (content : String)
  | readiness
  deriving DecidableEq, Repr, Inhabited

inductive Finding where
  | reply (reply : Reply)
  | messages (messages : List Message)
  | ready
  deriving DecidableEq, Repr, Inhabited

namespace Job

def command (file : String) : Job → Command
  | .information line column => .information file line column
  | .check content => .sync file content
  | .readiness => .sync file ""

def failure : Job → ProverFailure → ProverFailure
  | .readiness, e => .startup e.message
  | _, e => e

def finding : Job → List Message → Finding
  | .readiness, _ => .ready
  | _, messages => .messages messages

end Job

inductive Stage where
  | queued
  | numbered (number : Nat)
  | waiting (number deadline : Nat)
  | following (number : Nat) (progress : Progress)
  | ended (result : Except ProverFailure Finding)
  deriving Repr, Inhabited

structure Call where
  job : Job
  timeout : Duration
  deadline : Nat
  heard : Nat
  stage : Stage := .queued
  reply : Option (Except ProverFailure Reply) := none
  deriving Repr, Inhabited

structure Session where
  file : String
  listenerCapacity : Nat
  now : Nat := 0
  phase : Phase := .idle
  listens : Bool := true
  inputOpen : Bool := true
  free : Nat
  nextNumber : Nat := 0
  waiters : List (Nat × Nat) := []
  calls : List Call := []
  written : List Request := []
  events : List SessionEvent := []
  lastMessages : List Message := []
  deriving Inhabited

def roundedCapacity (n : Nat) : Nat :=
  (max n 1).nextPowerOfTwo

namespace Session

def start (settings : ProverSettings) : Session where
  file := settings.fileName
  listenerCapacity := roundedCapacity settings.listenerCapacity
  free := max settings.slots 1

def isRunning (s : Session) : Bool :=
  s.phase == .active

def emit (s : Session) (event : SessionEvent) : Session :=
  { s with events := s.events ++ [event] }

def setStage (s : Session) (id : Nat) (stage : Stage) : Session :=
  { s with calls := s.calls.modify id fun c => { c with stage } }

def unregister (s : Session) (number : Nat) : Session :=
  { s with waiters := s.waiters.filter (·.1 ≠ number) }

def endSlotted (s : Session) (id : Nat) (result : Except ProverFailure Finding) : Session :=
  { s.setStage id (.ended result) with free := s.free + 1 }

def answer (s : Session) (number : Nat) (result : Except ProverFailure Reply) : Session :=
  match s.waiters.find? (·.1 == number) with
  | none => s
  | some (_, id) =>
    { s.unregister number with
      calls := s.calls.modify id fun c => { c with reply := some result } }

def shut (s : Session) : Session :=
  let calls := s.waiters.foldl
    (fun calls (_, id) => calls.modify id fun c => { c with reply := some (.error .closed) })
    s.calls
  ({ s with phase := .stopped, waiters := [], calls }.emit (.phase .stopped)).emit .exited

def receive (s : Session) : Response → Session
  | .accepted number message => s.answer number (.ok { number, message })
  | .refused (some number) message => s.answer number (.error (.refused message))
  | .refused none _ => s
  | .messages batch => s.emit (.messages batch)
  | .tasks running _ =>
    let phase := if running then Phase.active else .ready
    let s := if s.phase = phase then s else { s with phase }.emit (.phase phase)
    s.emit (.tasks running)
  | .other => s

def begin (s : Session) (job : Job) (timeout : Duration) : Session :=
  let call : Call :=
    { job, timeout, deadline := s.now + timeout.milliseconds, heard := s.events.length }
  { s with
    phase := if job = .readiness then .starting else s.phase
    calls := s.calls ++ [call] }

def isFirstQueued (s : Session) (id : Nat) : Bool :=
  (s.calls.take id).all fun c => !(c.stage matches .queued)

def enter (s : Session) (id : Nat) : Session :=
  if s.free = 0 ∨ !s.isFirstQueued id then s
  else if s.phase = .stopped then
    match s.calls[id]? with
    | some c => s.setStage id (.ended (.error (c.job.failure .closed)))
    | none => s
  else
    { s.setStage id (.numbered s.nextNumber) with
      free := s.free - 1
      waiters := s.waiters ++ [(s.nextNumber, id)]
      nextNumber := s.nextNumber + 1 }

def write (s : Session) (id : Nat) (c : Call) (number : Nat) : Session :=
  if s.inputOpen then
    { s.setStage id (.waiting number (s.now + c.timeout.milliseconds)) with
      written := s.written ++ [{ number, command := c.job.command s.file }] }
  else
    (s.unregister number).endSlotted id (.error (c.job.failure (.unwritable "broken pipe")))

def follow (s : Session) (id : Nat) (c : Call) (number : Nat) (progress : Progress) : Session :=
  match progress.follow s.file (unheard s.listenerCapacity c.heard s.events).2 with
  | .unfinished progress =>
    { s with calls := s.calls.modify id fun c =>
        { c with heard := s.events.length, stage := .following number progress } }
  | .finished messages =>
    { s.setStage id (.ended (.ok (c.job.finding messages))) with lastMessages := messages }
  | .closed => s.setStage id (.ended (.error (c.job.failure .closed)))

def unchanged : String := "file unchanged"

def resume (s : Session) (id : Nat) (c : Call) (number : Nat) :
    Except ProverFailure Reply → Session
  | .error e => s.endSlotted id (.error (c.job.failure e))
  | .ok reply =>
    match c.job with
    | .information _ _ => s.endSlotted id (.ok (.reply reply))
    | job =>
      if reply.message = some unchanged then
        s.endSlotted id (.ok (job.finding s.lastMessages))
      else
        { s.setStage id (.following number {}) with free := s.free + 1 }

def proceed (s : Session) (id : Nat) : Session :=
  match s.calls[id]? with
  | none => s
  | some c =>
    match c.stage with
    | .queued => s.enter id
    | .numbered number => s.write id c number
    | .waiting number _ =>
      match c.reply with
      | some result => s.resume id c number result
      | none => s
    | .following number progress => s.follow id c number progress
    | .ended _ => s

def expire (s : Session) (id : Nat) : Session :=
  match s.calls[id]? with
  | none => s
  | some c =>
    let late (number : Nat) := Except.error (c.job.failure (.timeout number c.timeout))
    match c.stage with
    | .waiting number deadline =>
      if deadline ≤ s.now ∧ c.reply.isNone then
        (s.unregister number).endSlotted id (late number)
      else s
    | .following number _ =>
      if c.deadline ≤ s.now ∧ c.heard = s.events.length then s.setStage id (.ended (late number))
      else s
    | _ => s

end Session

inductive Move where
  | begin (job : Job) (timeout : Duration)
  | proceed (call : Nat)
  | expire (call : Nat)
  | receive (response : Response)
  | pass (milliseconds : Nat)
  | endOutput
  | closeInput
  | stop
  deriving Repr, Inhabited

namespace Session

def move (s : Session) : Move → Session
  | .begin job timeout => s.begin job timeout
  | .proceed id => s.proceed id
  | .expire id => s.expire id
  | .receive response => if s.listens then s.receive response else s
  | .pass milliseconds => { s with now := s.now + milliseconds }
  | .endOutput => if s.listens then { s with listens := false }.shut else s
  | .closeInput => { s with inputOpen := false }
  | .stop => { s with listens := false }.shut

def run (s : Session) (moves : List Move) : Session :=
  moves.foldl move s

end Session

end ProofTutor
