import ProofTutor.Text.Letter
import ProofTutor.Text.Basic

/-!
Command lines. General options stand before or after the command, and what is given after it counts
more. An option is given once on either side, except for those that collect their values.
-/

namespace ProofTutor

inductive OutputForm where
  | text | json
  deriving DecidableEq, Repr, Inhabited

namespace OutputForm

def ofName? (name : String) : Option OutputForm :=
  match Text.lower name with
  | "text" => some .text
  | "json" => some .json
  | _ => none

end OutputForm

inductive CliCommand where
  | initialStates (course : String) (exercises : List String)
  | replay (course script : String)
  | interactive (course exercise : String)
  | render (tree : String)
  | listExercises (course : String)
  | version
  deriving DecidableEq, Repr, Inhabited

structure Invocation where
  command : CliCommand
  settingsFile : Option String := none
  form : OutputForm := .text
  verbose : Bool := false
  noColor : Bool := false
  executable : Option String := none
  libraries : List String := []
  timeoutSeconds : Option Nat := none
  deriving DecidableEq, Repr, Inhabited

inductive ArgumentError where
  | unknownOption (option : String)
  | missingValue (option : String)
  | unexpectedValue (option : String)
  | repeated (option : String)
  | invalidValue (option value : String)
  | missingCommand
  | unknownCommand (name : String)
  | missingOperand (command : String)
  | tooManyOperands (command : String)
  deriving DecidableEq, Repr

namespace ArgumentError

def message : ArgumentError → String
  | .unknownOption o => "unexpected argument '" ++ o ++ "'"
  | .missingValue o => "a value is required for '" ++ o ++ "'"
  | .unexpectedValue o => "no value is allowed for '" ++ o ++ "'"
  | .repeated o => "the argument '" ++ o ++ "' cannot be used multiple times"
  | .invalidValue o value => "invalid value '" ++ value ++ "' for '" ++ o ++ "'"
  | .missingCommand => "a command is required"
  | .unknownCommand name => "unrecognized command '" ++ name ++ "'"
  | .missingOperand command => "required arguments were not provided for '" ++ command ++ "'"
  | .tooManyOperands command => "too many arguments for '" ++ command ++ "'"

end ArgumentError

namespace Arguments

inductive Switch where
  | config | format | executable | library | timeout | exercise | verbose | noColor | version
  deriving DecidableEq, Repr

namespace Switch

def all : List Switch :=
  [.config, .format, .executable, .library, .timeout, .exercise, .verbose, .noColor, .version]

def long : Switch → String
  | .config => "config"
  | .format => "format"
  | .executable => "executable"
  | .library => "library"
  | .timeout => "timeout"
  | .exercise => "exercise"
  | .verbose => "verbose"
  | .noColor => "no-color"
  | .version => "version"

def short? : Switch → Option Char
  | .config => some 'c'
  | .timeout => some 't'
  | .exercise => some 'e'
  | .verbose => some 'v'
  | .version => some 'V'
  | _ => none

def takesValue : Switch → Bool
  | .verbose | .noColor | .version => false
  | _ => true

def collects : Switch → Bool
  | .library | .exercise => true
  | _ => false

def display (s : Switch) : String := "--" ++ s.long

end Switch

structure Side where
  given : List (Switch × String) := []
  operands : List String := []

inductive Word where
  | operand
  | rest
  | switches (plain : List Switch) (last : Option (Switch × Option String))
  deriving Repr

def cluster (known : List Switch) : List Char → Except ArgumentError Word
  | [] => .ok (.switches [] none)
  | c :: rest =>
    match known.find? (·.short? == some c) with
    | none => .error (.unknownOption (.ofList ['-', c]))
    | some s =>
      if s.takesValue then
        let value := match rest with
          | [] => none
          | '=' :: value => some (String.ofList value)
          | value => some (.ofList value)
        .ok (.switches [] (some (s, value)))
      else if s = .version then .ok (.switches [s] none)
      else
        match rest with
        | '=' :: _ => .error (.unexpectedValue s.display)
        | rest => do
          match ← cluster known rest with
          | .switches plain last => return .switches (s :: plain) last
          | word => return word

def longWord (known : List Switch) (body : List Char) : Except ArgumentError Word :=
  let name := body.takeWhile (· ≠ '=')
  match known.find? fun s => s.long.toList == name with
  | none => .error (.unknownOption ("--" ++ .ofList name))
  | some s =>
    match body.drop name.length with
    | [] => .ok (if s.takesValue then .switches [] (some (s, none)) else .switches [s] none)
    | _ :: value =>
      if s.takesValue then .ok (.switches [] (some (s, some (.ofList value))))
      else .error (.unexpectedValue s.display)

def classify (known : List Switch) (argument : String) : Except ArgumentError Word :=
  match argument.toList with
  | ['-', '-'] => .ok .rest
  | '-' :: '-' :: body => longWord known body
  | '-' :: c :: cs => cluster known (c :: cs)
  | _ => .ok .operand

def isValue (argument : String) : Bool :=
  match argument.toList with
  | '-' :: _ :: _ => false
  | _ => true

def Side.add (side : Side) (s : Switch) (value : String) : Except ArgumentError Side :=
  if !s.collects && side.given.any (·.1 == s) then .error (.repeated s.display)
  else .ok { side with given := side.given ++ [(s, value)] }

def Side.addPlain (side : Side) (plain : List Switch) : Except ArgumentError Side :=
  plain.foldlM (fun side s => side.add s "") side

/-- Reads the arguments of a side. Before the command, the first operand ends the side; the
arguments after it are returned. A request for the version ends the command line. -/
def readSide (known : List Switch) (beforeCommand : Bool) (side : Side) :
    List String → Except ArgumentError (Side × List String)
  | [] => .ok (side, [])
  | argument :: arguments => do
    match ← classify known argument with
    | .operand =>
      let side := { side with operands := side.operands ++ [argument] }
      if beforeCommand then return (side, arguments)
      else readSide known beforeCommand side arguments
    | .rest => return ({ side with operands := side.operands ++ arguments }, [])
    | .switches plain last =>
      let side ← side.addPlain plain
      if plain.contains .version then return (side, [])
      match last with
      | none => readSide known beforeCommand side arguments
      | some (s, some value) => readSide known beforeCommand (← side.add s value) arguments
      | some (s, none) =>
        match arguments with
        | [] => .error (.missingValue s.display)
        | value :: arguments =>
          if isValue value then readSide known beforeCommand (← side.add s value) arguments
          else .error (.missingValue s.display)

def general : List Switch := Switch.all.filter fun s => s ≠ .exercise && s ≠ .version

def checkValue (s : Switch) (value : String) : Except ArgumentError Unit :=
  let valid := match s with
    | .config | .executable | .library => !value.isEmpty
    | .format => (OutputForm.ofName? value).isSome
    | .timeout => (Text.readNat? Text.word64 value.toList).isSome
    | .exercise | .verbose | .noColor | .version => true
  if valid then .ok () else .error (.invalidValue s.display value)

def checkSide (side : Side) : Except ArgumentError Unit :=
  side.given.forM fun (s, value) => checkValue s value

def path (name value : String) : Except ArgumentError String :=
  if value.isEmpty then .error (.invalidValue name value) else .ok value

def values (side : Side) (s : Switch) : List String :=
  side.given.filterMap fun (t, value) => if t = s then some value else none

def command (name : String) (side : Side) : Except ArgumentError CliCommand := do
  let wrong (expected : Nat) : ArgumentError :=
    if side.operands.length < expected then .missingOperand name else .tooManyOperands name
  match name, side.operands with
  | "initial-states", [course] =>
    return .initialStates (← path "<COURSE>" course) (values side .exercise)
  | "initial-states", _ => .error (wrong 1)
  | "replay", [course, script] =>
    return .replay (← path "<COURSE>" course) (← path "<SCRIPT>" script)
  | "replay", _ => .error (wrong 2)
  | "interactive", [course, exercise] => return .interactive (← path "<COURSE>" course) exercise
  | "interactive", _ => .error (wrong 2)
  | "render", [tree] => return .render tree
  | "render", _ => .error (wrong 1)
  | "list-exercises", [course] => return .listExercises (← path "<COURSE>" course)
  | "list-exercises", _ => .error (wrong 1)
  | _, _ => .error (.unknownCommand name)

def Switch.valuesOf (s : Switch) (before after : Side) : List String :=
  match values after s with
  | [] => values before s
  | found => found

def isCommandName (name : String) : Bool :=
  ["initial-states", "replay", "interactive", "render", "list-exercises"].contains name

end Arguments

namespace Invocation

open Arguments

def read (arguments : List String) : Except ArgumentError Invocation := do
  let (before, rest) ← readSide (.version :: general) true {} arguments
  if before.given.any (·.1 == .version) then
    checkSide before
    return { command := .version }
  match before.operands with
  | [name] =>
    if !isCommandName name then .error (.unknownCommand name)
    let known := if name = "initial-states" then .exercise :: general else general
    let (after, _) ← readSide known false {} rest
    checkSide before
    checkSide after
    let value? (s : Switch) := (s.valuesOf before after).head?
    return {
      command := ← Arguments.command name after
      settingsFile := value? .config
      form := ((value? .format).bind OutputForm.ofName?).getD .text
      verbose := (value? .verbose).isSome
      noColor := (value? .noColor).isSome
      executable := value? .executable
      libraries := Switch.valuesOf .library before after
      timeoutSeconds := (value? .timeout).bind fun s => Text.readNat? Text.word64 s.toList }
  | [] => .error .missingCommand
  | name :: _ => .error (.unknownCommand name)

end Invocation

end ProofTutor
