import ProofTutor.Text.Basic

/-!
Trees of tactics: sequences, choices between alternatives, and wrappers around one tactic. Every
node may carry a message for when it succeeds and one for when it fails. Names of tactics and texts of
the prover are composed and looked for, never interpreted; a probe is a tactic that prints which
alternative of which choice was taken.
-/

namespace ProofTutor.Vocabulary

/-! ### Vocabulary -/

def noMetaVars : String := "no_meta_vars"

def contextAnalysis : String := "hypo_analysis"

def targetAnalysis : String := "targets_analysis"

def metaVarSources : List String := ["apply", "have"]

def probeMark : String := "EFFECTIVE CODE n°"

def noGoalsMark : String := "no goals"

def unsolvedMark : String := "unsolved goals"

def trace (text : String) : String :=
  "trace \"" ++ .ofList (text.toList.flatMap fun c => if c = '"' then ['\\', '"'] else [c]) ++ "\""

def probeText (node alternative : Nat) : String :=
  probeMark ++ toString node ++ "." ++ toString alternative

def probe (node alternative : Nat) : String :=
  trace (probeText node alternative)

/-- The choice and the alternative that a message reports, from the first mark in it: two numbers
with a point between them, up to the first character that is neither digit nor point. -/
def readProbe? (message : String) : Option (Nat × Nat) := do
  let (_, after) ← Text.cut? probeMark.toList message.toList
  let (node, alternative) ←
    Text.cut? ['.'] (after.takeWhile fun c => c.isDigit || c == '.')
  return (← Text.readNat? Text.word64 node, ← Text.readNat? Text.word64 alternative)

end ProofTutor.Vocabulary

/-! ### Tactics -/

namespace ProofTutor

structure Messages where
  success : Option String := none
  error : Option String := none
  deriving DecidableEq, Repr, Inhabited

namespace Messages

def isEmpty (m : Messages) : Bool := m.success.isNone && m.error.isNone

def inherit (m outer : Messages) : Messages :=
  ⟨m.success.or outer.success, m.error.or outer.error⟩

end Messages

inductive Wrapper where
  | attempt | solve1 | focus | iterate
  deriving DecidableEq, Repr, Inhabited

namespace Wrapper

def all : List Wrapper := [.attempt, .solve1, .focus, .iterate]

def keyword : Wrapper → String
  | .attempt => "try"
  | .solve1 => "solve1"
  | .focus => "focus"
  | .iterate => "iterate"

end Wrapper

inductive Tactic where
  | atomic (text : String) (messages : Messages := {})
  | sequence (children : List Tactic) (messages : Messages := {})
  | choice (number : Option Nat) (first : Tactic) (rest : List Tactic) (messages : Messages := {})
  | wrap (wrapper : Wrapper) (child : Tactic) (messages : Messages := {})
  deriving Inhabited, Repr

namespace Tactic

def messages : Tactic → Messages
  | .atomic _ m | .sequence _ m | .choice _ _ _ m | .wrap _ _ m => m

def withMessages (m : Messages) : Tactic → Tactic
  | .atomic text _ => .atomic text m
  | .sequence children _ => .sequence children m
  | .choice number first rest _ => .choice number first rest m
  | .wrap wrapper child _ => .wrap wrapper child m

def withSuccess (t : Tactic) (message : String) : Tactic :=
  t.withMessages { t.messages with success := some message }

def withError (t : Tactic) (message : String) : Tactic :=
  t.withMessages { t.messages with error := some message }

def inheriting (outer : Messages) (t : Tactic) : Tactic :=
  t.withMessages (t.messages.inherit outer)

def steps : Tactic → List Tactic
  | .sequence children m => if m.isEmpty then children else [.sequence children m]
  | t => [t]

def inOrder (ts : List Tactic) : Tactic :=
  match ts.flatMap steps with
  | [t] => t
  | ts => .sequence ts

def andThen (t u : Tactic) : Tactic :=
  inOrder [t, u]

def alternatives : Tactic → Tactic × List Tactic
  | .choice number first rest m =>
    if m.isEmpty then (first, rest) else (.choice number first rest m, [])
  | t => (t, [])

def firstOf (t : Tactic) (more : List Tactic) : Tactic :=
  let (first, rest) := t.alternatives
  match rest ++ more.flatMap fun u => u.alternatives.1 :: u.alternatives.2 with
  | [] => first
  | rest => .choice none first rest

def orElse (t u : Tactic) : Tactic :=
  t.firstOf [u]

def attempt (t : Tactic) : Tactic := .wrap .attempt t
def solve1 (t : Tactic) : Tactic := .wrap .solve1 t
def focus (t : Tactic) : Tactic := .wrap .focus t
def iterate (t : Tactic) : Tactic := .wrap .iterate t

def quotedSource (source : String) : String := "`[" ++ source ++ "]"

mutual

def source (dropChecks : Bool) : Tactic → String
  | .atomic text _ => if dropChecks && text == Vocabulary.noMetaVars then "" else text
  | .sequence children _ => Text.join ", " ((sources dropChecks children).filter (· ≠ ""))
  | .choice _ first rest _ =>
    Text.join " <|> " ((source dropChecks first :: sources dropChecks rest).map quotedSource)
  | .wrap wrapper child _ => wrapper.keyword ++ " \x7b " ++ source dropChecks child ++ " \x7d"

def sources (dropChecks : Bool) : List Tactic → List String
  | [] => []
  | t :: ts => source dropChecks t :: sources dropChecks ts

end

mutual

def hasChoice : Tactic → Bool
  | .atomic _ _ => false
  | .sequence children _ => anyHasChoice children
  | .choice _ _ _ _ => true
  | .wrap _ child _ => hasChoice child

def anyHasChoice : List Tactic → Bool
  | [] => false
  | t :: ts => hasChoice t || anyHasChoice ts

end

mutual

def atoms : Tactic → List String
  | .atomic text _ => [text]
  | .sequence children _ => atomsOf children
  | .choice _ first rest _ => atoms first ++ atomsOf rest
  | .wrap _ child _ => atoms child

def atomsOf : List Tactic → List String
  | [] => []
  | t :: ts => atoms t ++ atomsOf ts

end

mutual

def errorMessage? : Tactic → Option String
  | .atomic _ m => m.error
  | .sequence children m => m.error.or (errorMessageOf? children)
  | .choice _ first rest m => m.error.or ((errorMessage? first).or (errorMessageOf? rest))
  | .wrap _ child m => m.error.or (errorMessage? child)

def errorMessageOf? : List Tactic → Option String
  | [] => none
  | t :: ts => (errorMessage? t).or (errorMessageOf? ts)

end

def needsCheck (text : String) : Bool :=
  Vocabulary.metaVarSources.any (Text.begins (Text.trimStart text))

mutual

def withChecks : Tactic → Tactic
  | .atomic text m =>
    if needsCheck text then .sequence [.atomic text, .atomic Vocabulary.noMetaVars] m
    else .atomic text m
  | .sequence children m => .sequence (withChecksAll children) m
  | .choice number first rest m => .choice number (withChecks first) (withChecksAll rest) m
  | .wrap wrapper child m => .wrap wrapper (withChecks child) m

def withChecksAll : List Tactic → List Tactic
  | [] => []
  | t :: ts => withChecks t :: withChecksAll ts

end

end Tactic

end ProofTutor
