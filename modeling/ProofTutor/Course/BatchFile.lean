import ProofTutor.Course.Scan
import ProofTutor.Tactic.Basic

/-!
The files that the prover is given. The file for one step of a proof has the source up to the `begin`
of the exercise, the accepted steps, the new step, the two analysis tactics, and what closes the proof
and the blocks around it. The file for the initial states of several exercises has the two tactics in
the place of each proof, marked with the number of the exercise.
-/

namespace ProofTutor

/-! ### One step -/

inductive Block where
  | namespaceBlock (name : String)
  | sectionBlock (name : Option String)
  | proofBlock
  deriving DecidableEq, Repr

namespace Block

def closing? : Block → Option String
  | .namespaceBlock name => some ("end " ++ name)
  | .sectionBlock (some name) => some ("end " ++ name)
  | .sectionBlock none => some "end"
  | .proofBlock => none

def after (stack : List Block) (line : String) : List Block :=
  match Course.wordsOf line with
  | "namespace" :: rest => .namespaceBlock (rest.head?.getD "") :: stack
  | "section" :: rest => .sectionBlock rest.head? :: stack
  | "end" :: _ | "end," :: _ => stack.tail
  | _ => if Course.opensProof (Text.trim line) then .proofBlock :: stack else stack

def closings (lines : List String) : List String :=
  (lines.foldl after []).filterMap closing?

end Block

structure LiveFile where
  content : String
  newLines : Option (Nat × Nat)
  contextLine : Nat
  targetsLine : Nat
  endLine : Nat
  deriving DecidableEq, Repr, Inhabited

namespace LiveFile

def inNewLines (f : LiveFile) (line : Nat) : Bool :=
  match f.newLines with
  | some (first, last) => first ≤ line && line ≤ last
  | none => false

def isAnalysisLine (f : LiveFile) (line : Nat) : Bool :=
  line == f.contextLine || line == f.targetsLine

end LiveFile

structure Assembler where
  name : String
  preamble : List String
  closings : List String
  lastContent : Option String := none
  repeats : Nat := 0
  deriving DecidableEq, Repr, Inhabited

namespace Assembler

def start (c : Course) (e : Exercise) : Except CourseError Assembler := do
  c.check e
  let preamble := (e.negated c.lines).take e.beginLine
  return { name := e.name, preamble, closings := Block.closings preamble }

def indented (s : String) : String := "  " ++ s

def acceptedLines (accepted : List String) : List String :=
  (accepted.filter (!Text.allBlank ·)).map fun code => indented code ++ ","

def endWithComma : List String → List String
  | [] => []
  | [line] => [line ++ ","]
  | line :: lines => line :: endWithComma lines

def newCodeLines (code? : Option String) : List String :=
  match code?.filter (!Text.allBlank ·) with
  | some code => endWithComma ((Text.lines code).map indented)
  | none => []

def analysisLines : List String :=
  [indented (Vocabulary.contextAnalysis ++ ","), indented Vocabulary.targetAnalysis]

def fileOf (lines : List String) : String :=
  Text.join "\n" lines ++ "\n"

/-- The file for the accepted steps and perhaps a new one. A file equal to the last one gets a
numbered comment at its end, so that no two files in a row are equal. -/
def liveStep (a : Assembler) (accepted : List String) (newCode : Option String) :
    LiveFile × Assembler :=
  let before := a.preamble ++ acceptedLines accepted
  let new := newCodeLines newCode
  let upto := before.length + new.length
  let plain := fileOf (before ++ new ++ analysisLines ++ "end" :: a.closings)
  let again := a.lastContent = some plain
  let repeats := if again then a.repeats + 1 else a.repeats
  let content := if again then plain ++ "-- #" ++ toString repeats ++ "\n" else plain
  ({ content
     newLines := if new.isEmpty then none else some (before.length + 1, upto)
     contextLine := upto + 1
     targetsLine := upto + 2
     endLine := upto + 3 },
    { a with lastContent := some content, repeats })

end Assembler

/-! ### Several exercises -/

inductive Analysis where
  | context | targets
  deriving DecidableEq, Repr, Inhabited

namespace Analysis

def name : Analysis → String
  | .context => "hypotheses"
  | .targets => "targets"

end Analysis

structure Marker where
  exercise : Nat
  contextLine : Nat
  deriving DecidableEq, Repr, Inhabited

structure BatchFile where
  content : String
  sequence : Nat
  markers : List Marker
  deriving DecidableEq, Repr, Inhabited

namespace BatchFile

def ordered (exercises : List Exercise) : List (Nat × Exercise) :=
  (exercises.zipIdx.map fun (e, i) => (i, e)).mergeSort fun a b =>
    a.2.beginLine ≤ b.2.beginLine

def overlap? : List Exercise → Option (Exercise × Exercise)
  | a :: b :: rest => if b.beginLine ≤ a.endLine then some (a, b) else overlap? (b :: rest)
  | _ => none

def markedLines (sequence exercise : Nat) : List String :=
  let mark := " #" ++ toString sequence ++ "." ++ toString exercise
  [Assembler.indented (Vocabulary.contextAnalysis ++ mark ++ ","),
    Assembler.indented (Vocabulary.targetAnalysis ++ mark)]

def assemble (source : List String) (sequence : Nat) :
    (next written : Nat) → List (Nat × Exercise) → List String × List Marker
  | next, _, [] => (source.drop next, [])
  | next, written, (i, e) :: rest =>
    let kept := (source.take e.beginLine).drop next
    let here := written + kept.length
    match assemble source sequence (e.endLine - 1) (here + 2) rest with
    | (lines, markers) =>
      (kept ++ markedLines sequence i ++ lines, { exercise := i, contextLine := here + 1 } :: markers)

def build (c : Course) (exercises : List Exercise) (sequence : Nat) :
    Except CourseError BatchFile := do
  let order := ordered exercises
  if let some (a, b) := overlap? (order.map (·.2)) then
    throw (.overlap a b)
  exercises.forM c.check
  let source := exercises.foldl (fun lines e => e.negated lines) c.lines
  let (lines, markers) := assemble source sequence 0 0 order
  return { content := Assembler.fileOf lines, sequence, markers }

def exerciseAt? (f : BatchFile) (line : Nat) : Option (Nat × Analysis) :=
  f.markers.findSome? fun m =>
    if line = m.contextLine then some (m.exercise, .context)
    else if line = m.contextLine + 1 then some (m.exercise, .targets)
    else none

def linesOf? (f : BatchFile) (exercise : Nat) : Option (Nat × Nat) :=
  (f.markers.find? (·.exercise == exercise)).map fun m => (m.contextLine, m.contextLine + 1)

end BatchFile

end ProofTutor
