import ProofTutor.Cli.Program
import ProofTutor.Session.Schedule
import ProofTutor.Session.SearchPath

/-!
The command line. The prover is a server that runs already: it reads requests from a named pipe and
writes responses to another, and both have the name of the executable, with `.in` and with `.out`
after it. Deadlines are looked at whenever a line arrives.
-/

namespace ProofTutor

structure Server where
  settings : ProverSettings
  input : IO.FS.Handle
  output : IO.FS.Handle
  connection : IO.Ref Connection

namespace Server

def session (s : Server) : IO Session := do
  return (← s.connection.get).session

def update (s : Server) (f : Session → Session) : IO Unit :=
  s.connection.modify fun c => { c with session := f c.session }

def send (s : Server) (count : Nat) : IO Unit := do
  for request in (← s.session).written.drop count do
    try
      s.input.putStr request.line
      s.input.flush
    catch _ => s.update (·.move .closeInput)

partial def await (s : Server) (call : Nat) : IO (Except ProverFailure Finding) := do
  match (← s.connection.get).resultsFrom call with
  | result :: _ => return result
  | [] =>
    let line ← s.output.getLine
    let now ← IO.monoMsNow
    if line.isEmpty then s.connection.modify (·.endOutput)
    else s.connection.modify (·.feed line.toUTF8.toList)
    s.update fun session => (session.move (.pass (now - session.now))).settle
    s.await call

def call (s : Server) (job : Job) (timeout : Duration) : IO (Except ProverFailure Finding) := do
  let before ← s.session
  let now ← IO.monoMsNow
  s.update fun session =>
    ((session.move (.pass (now - session.now))).move (.begin job timeout)).settle
  s.send before.written.length
  s.await before.calls.length

def start (settings : ProverSettings) : IO (Except ProverFailure Server) := do
  try
    IO.FS.writeFile (settings.executable ++ ".path")
      (SearchPath.content "/" (toString (← IO.currentDir)) settings.libraryPaths)
    let input ← IO.FS.Handle.mk (settings.executable ++ ".in") .write
    let output ← IO.FS.Handle.mk (settings.executable ++ ".out") .read
    let s : Server :=
      { settings, input, output, connection := ← IO.mkRef { session := .start settings } }
    match ← s.call .readiness (.ofSeconds settings.startupSeconds) with
    | .ok _ => return .ok s
    | .error e => return .error e
  catch e => return .error (.startup (toString e))

def check (s : Server) (content : String) : IO CheckResult := do
  match ← s.call (.check content) (.ofSeconds s.settings.timeoutSeconds) with
  | .ok (.messages messages) => return .ok messages
  | .ok _ => return .ok []
  | .error e => return .error e

def lead {α : Type} (s : Server) : Dialog α → IO (α × Server)
  | .done result => return (result, s)
  | .check content next => do
    let answer ← s.check content
    s.lead (next answer)
  | .restart next => do
    match ← start s.settings with
    | .ok fresh => fresh.lead (next (.ok ()))
    | .error e => s.lead (next (.error e))

end Server

namespace Printed

def print : Printed → IO Unit
  | .result text => do
    let out ← IO.getStdout
    out.putStr text
    out.flush
  | .trouble text => IO.eprint text

end Printed

namespace Printout

def print (p : Printout) : IO UInt32 := do
  p.printed.forM Printed.print
  return p.exitCode.toUInt32

end Printout

namespace Interactive

partial def converse (r : Interactive) (page : Page) (s : Server) (input : IO.FS.Stream) :
    IO UInt32 := do
  let line ← input.getLine
  let ((printed, next), s) ← s.lead (r.feed page (if line.isEmpty then none else some line))
  printed.forM Printed.print
  match next with
  | some r => r.converse page s input
  | none => return 0

end Interactive

namespace Program

def withServer (settings : ProverSettings) (act : Server → IO UInt32) : IO UInt32 := do
  match ← Server.start settings with
  | .ok s => act s
  | .error e => (notStarted settings e).print

def main : Program → IO UInt32
  | .known printout => printout.print
  | .proving settings dialog => withServer settings fun s => do
    let (printout, _) ← s.lead dialog
    printout.print
  | .session settings page start => withServer settings fun s => do
    match ← s.lead start with
    | (.error reason, _) => (Printout.fatal reason).print
    | (.ok r, s) =>
      (r.welcome page).forM Printed.print
      r.converse page s (← IO.getStdin)

end Program

namespace Invocation

def readFiles (i : Invocation) : IO (List (String × String)) :=
  i.files.filterMapM fun (name : String) => do
    try
      let text ← IO.FS.readFile name
      return some (name, text)
    catch _ => return none

end Invocation

end ProofTutor

def main (arguments : List String) : IO UInt32 := do
  match ProofTutor.Invocation.read arguments with
  | .error e => (ProofTutor.Printout.refused e).print
  | .ok i =>
    let files ← i.readFiles
    (i.program fun name => (files.find? (·.1 == name)).map (·.2)).main
