import ProofTutor.Text.Basic

/-!
A course is a source text with exercises in it: statements whose proof stands between a `begin`
line and an `end` line. Lines count from 1. The exercises of a source are found as every theorem, lemma
or example whose proof stands between `begin` and the `end` that closes it.
-/

namespace ProofTutor

structure Exercise where
  name : String
  beginLine : Nat
  endLine : Nat
  negate : Bool := false
  coreStatement : Option String := none
  deriving DecidableEq, Repr, Inhabited

inductive CourseError where
  | invalidLines (exercise : Exercise) (lineCount : Nat)
  | overlap (first second : Exercise)
  deriving DecidableEq, Repr

namespace CourseError

def message : CourseError → String
  | .invalidLines e count =>
    "exercise " ++ e.name ++ " has invalid proof lines " ++ toString e.beginLine ++ ".." ++
      toString e.endLine ++ " (source has " ++ toString count ++ " lines)"
  | .overlap first second => "exercises " ++ first.name ++ " and " ++ second.name ++ " overlap"

end CourseError

namespace Exercise

def FitsIn (e : Exercise) (lineCount : Nat) : Prop :=
  1 ≤ e.beginLine ∧ e.beginLine < e.endLine ∧ e.endLine ≤ lineCount

instance (e : Exercise) (lineCount : Nat) : Decidable (e.FitsIn lineCount) :=
  inferInstanceAs (Decidable (_ ∧ _ ∧ _))

def negateIn? (core line : String) : Option String :=
  (Text.cutLast? core.toList line.toList).map fun (before, after) =>
    .ofList before ++ "¬ (" ++ core ++ ")" ++ .ofList after

def negateFirst (core : String) : List String → List String
  | [] => []
  | line :: lines =>
    match negateIn? core line with
    | some negated => negated :: lines
    | none => line :: negateFirst core lines

def negated (e : Exercise) (lines : List String) : List String :=
  match e.negate, e.coreStatement with
  | true, some core =>
    (negateFirst core (lines.take e.beginLine).reverse).reverse ++ lines.drop e.beginLine
  | _, _ => lines

end Exercise

structure Course where
  source : String
  exercises : List Exercise := []
  deriving DecidableEq, Repr, Inhabited

namespace Course

def lines (c : Course) : List String :=
  Text.lines c.source

def exercise? (c : Course) (name : String) : Option Exercise :=
  c.exercises.find? (·.name == name)

def check (c : Course) (e : Exercise) : Except CourseError Unit :=
  if e.FitsIn c.lines.length then .ok () else .error (.invalidLines e c.lines.length)

def wordsOf (line : String) : List String :=
  (Text.words Text.isBlank line.toList).map .ofList

def opensProof (trimmed : String) : Bool :=
  trimmed == "begin" || Text.ends trimmed " begin"

/-! ### Finding exercises -/

def dropEndColons (s : String) : String :=
  .ofList (s.toList.reverse.dropWhile (· == ':')).reverse

def statementName? (line : String) : Option String :=
  match wordsOf line with
  | "theorem" :: name :: _ | "lemma" :: name :: _ => some (dropEndColons name)
  | "example" :: _ => some "example"
  | _ => none

structure Scanning where
  statement : Option (String × Option Nat) := none
  depth : Nat := 0
  found : List Exercise := []

namespace Scanning

def inStatement (s : Scanning) (name : String) (beginLine? : Option Nat) (number : Nat)
    (trimmed : String) : Scanning :=
  if opensProof trimmed then
    { s with statement := some (name, beginLine?.or (some number)), depth := s.depth + 1 }
  else
    match beginLine? with
    | some beginLine =>
      if trimmed == "end" || Text.begins trimmed "end," then
        if s.depth ≤ 1 then
          { statement := none, depth := 0
            found := s.found ++ [{ name, beginLine, endLine := number }] }
        else { s with statement := some (name, beginLine?), depth := s.depth - 1 }
      else { s with statement := some (name, beginLine?) }
    | none => { s with statement := some (name, beginLine?) }

def next (s : Scanning) (number : Nat) (line : String) : Scanning :=
  let trimmed := Text.trim line
  match s.statement.or ((statementName? trimmed).map (·, none)) with
  | some (name, beginLine?) => s.inStatement name beginLine? number trimmed
  | none => s

def run (s : Scanning) (number : Nat) : List String → Scanning
  | [] => s
  | line :: lines => run (s.next number line) (number + 1) lines

end Scanning

def scan (source : String) : Course :=
  { source, exercises := (Scanning.run {} 1 (Text.lines source)).found }

end Course

end ProofTutor
