import ProofTutor.Goal.Basic
import ProofTutor.Step.Action
import ProofTutor.Tactic.Basic

/-!
The history of a proof. All steps and all states are kept, each under the number of its place. The
accepted steps form a line with a cursor in it: the steps before the cursor are visible. A new step
drops those after the cursor from the line; a failed step never enters it.
-/

namespace ProofTutor

structure Step where
  id : Nat := 0
  action : Action := {}
  code : Option Tactic := none
  effective : Option Tactic := none
  submitted : Option String := none
  before : Nat
  after : Option Nat := none
  goalIndex : Nat := 0
  totalGoals : Nat := 0
  counter : Nat := 0
  success : Option String := none
  failure : Option StepFailure := none
  branches : List Branch := []
  goalStack : List String := []
  parent : Option Nat := none
  children : List Nat := []
  completesProof : Bool := false
  deriving Inhabited, Repr

inductive CursorMove where
  | by (distance : Int64)
  | to (index : Nat)

structure History where
  states : List ProofState
  steps : List Step := []
  initialStack : List String
  line : List Nat := []
  cursor : Nat := 0
  deriving Inhabited, Repr

namespace History

def initialLabel (index : Nat) : String :=
  if index = 0 then "Main goal" else "Goal " ++ toString (index + 1)

def start (initial : ProofState) : History :=
  { states := [initial], initialStack := (List.range initial.goalCount).map initialLabel }

def step? (h : History) (id : Nat) : Option Step := h.steps[id]?

def nextId (h : History) : Nat := h.steps.length

def initialState (h : History) : ProofState := h.states.head?.getD {}

def past (h : History) : List Nat := h.line.take h.cursor

def future (h : History) : List Nat := h.line.drop h.cursor

def accepted (h : History) : List Step := h.past.filterMap h.step?

def isAccepted (h : History) (id : Nat) : Bool := h.past.contains id

def current? (h : History) : Option Step :=
  match h.cursor with
  | 0 => none
  | n + 1 => h.line[n]?.bind h.step?

def currentStateId (h : History) : Nat :=
  (h.current?.bind (·.after)).getD 0

def currentState (h : History) : ProofState :=
  h.states[h.currentStateId]?.getD h.initialState

def goalStack (h : History) : List String :=
  match h.current? with
  | some s => s.goalStack
  | none => h.initialStack

def counter (h : History) : Nat :=
  match h.current? with
  | some s => s.counter
  | none => 0

def isComplete (h : History) : Bool :=
  h.current?.any (·.completesProof) || h.currentState.isComplete

def pushState (h : History) (s : ProofState) : History :=
  { h with states := h.states ++ [s] }

def addChild (steps : List Step) (parent child : Nat) : List Step :=
  steps.modify parent fun s => { s with children := s.children ++ [child] }

def filed (h : History) (s : Step) : Step :=
  { s with id := h.nextId, parent := h.current?.map (·.id) }

def recordSuccess (h : History) (s : Step) : History :=
  let s := h.filed s
  let steps := match s.parent with
    | some parent => addChild h.steps parent s.id
    | none => h.steps
  { h with steps := steps ++ [s], line := h.past ++ [s.id], cursor := h.past.length + 1 }

def recordFailure (h : History) (s : Step) : History :=
  { h with steps := h.steps ++ [h.filed s] }

def canUndo (h : History) : Bool := 0 < h.cursor

def canRedo (h : History) : Bool := h.cursor < h.line.length

def undo? (h : History) : Option History :=
  if h.canUndo then some { h with cursor := h.cursor - 1 } else none

def redo? (h : History) : Option History :=
  if h.canRedo then some { h with cursor := h.cursor + 1 } else none

def rewind (h : History) : History :=
  { h with cursor := 0 }

def goTo? (h : History) (id : Nat) : Option History :=
  (h.line.idxOf? id).map fun i => { h with cursor := i + 1 }

/-- Where a move leads before it is cut to the line. Distances are added in 64-bit words, and a
negative place is the start. -/
def target (h : History) : CursorMove → Nat
  | .by distance => (Int64.ofNat h.cursor + distance).toInt.toNat
  | .to index => index

def moveCursor (h : History) (move : CursorMove) : History :=
  { h with cursor := min (h.target move) h.line.length }

end History

end ProofTutor
