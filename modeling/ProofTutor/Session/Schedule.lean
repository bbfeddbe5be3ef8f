import ProofTutor.Serial.Session
import ProofTutor.Session.Basic
import ProofTutor.Text.Basic

/-!
A schedule for sessions: calls go on as far as they can, in the order in which they began, and time
passes only when nothing else can happen. What the prover writes is read line by line.
-/

namespace ProofTutor

def Call.givesUpAt? (c : Call) : Option Nat :=
  match c.stage with
  | .waiting _ deadline => some deadline
  | .following _ _ => some c.deadline
  | _ => none

namespace Session

def advance (s : Session) (id : Nat) : Session :=
  (Nat.repeat (·.proceed id) 4 s).expire id

def advanceAll (s : Session) : Session :=
  (List.range s.calls.length).foldl advance s

/-- All calls go on until none can. A call can go on again only when another has given a slot back,
which each does once. -/
def settle (s : Session) : Session :=
  Nat.repeat advanceAll (s.calls.length + 1) s

def nextDeadline? (s : Session) : Option Nat :=
  (s.calls.filterMap Call.givesUpAt?).min?

def awaitDeadline (s : Session) : Session :=
  match s.nextDeadline? with
  | some deadline => (s.move (.pass (deadline - s.now))).settle
  | none => s

def finish (s : Session) : Session :=
  Nat.repeat awaitDeadline s.calls.length s.settle

end Session

structure Connection where
  session : Session
  pending : List UInt8 := []
  deriving Inhabited

namespace Connection

def readLine (s : Session) (line : List UInt8) : Session :=
  match (Text.lineText? line).bind Response.ofLine? with
  | some response => s.move (.receive response)
  | none => s

def feed (c : Connection) (bytes : List UInt8) : Connection :=
  match Text.byteLines (c.pending ++ bytes) with
  | (lines, rest) => { session := lines.foldl readLine c.session, pending := rest }

def endOutput (c : Connection) : Connection where
  session := (readLine c.session c.pending).move .endOutput

def settle (c : Connection) : Connection :=
  { c with session := c.session.settle }

def stop (c : Connection) : Connection where
  session := c.session.move .stop

end Connection

inductive Delivery where
  | bytes (bytes : List UInt8)
  | pause
  | endOutput

namespace Connection

def deliver (c : Connection) : List Delivery → Connection
  | [] => c.settle
  | .bytes bytes :: rest => (c.feed bytes).deliver rest
  | .pause :: rest => c.settle.deliver rest
  | .endOutput :: _ => c.endOutput.settle

def begin (s : Session) (call : Job × Duration) : Session :=
  (s.move (.begin call.1 call.2)).advance s.calls.length

def call (c : Connection) (calls : List (Job × Duration)) (deliveries : List Delivery) :
    Connection :=
  let session := calls.foldl begin c.session
  let c := ({ c with session }.settle).deliver deliveries
  { c with session := c.session.finish }

def resultsFrom (c : Connection) (count : Nat) : List (Except ProverFailure Finding) :=
  (c.session.calls.drop count).filterMap fun call =>
    match call.stage with
    | .ended result => some result
    | _ => none

end Connection

end ProofTutor
