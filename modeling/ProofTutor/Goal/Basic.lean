import ProofTutor.Term.Basic
import ProofTutor.Term.Display
import ProofTutor.Text.Basic

/-!
Goals and proof states: a goal is a context of named entries and a target, a state is a list of
goals, complete when it is empty. An entry knows where it stands and in which step it appeared: goals
of two states are matched by position, entries by identifier, and types and targets are compared up to
bound variables. The goals that a step creates are labelled by how it splits its goal.
-/

namespace ProofTutor

inductive Change where
  | new | modified | unchanged
  deriving DecidableEq, Repr, Inhabited

structure Position where
  step : Option Nat := none
  goal : Nat := 0
  index : Nat := 0
  deriving DecidableEq, Repr, Inhabited

structure Entry where
  term : Term
  origin : Option Nat := none
  change : Change := .unchanged
  position : Position := {}
  deriving Inhabited, Repr

namespace Entry

def name (e : Entry) : String := e.term.name?.getD ""

def identifier? (e : Entry) : Option String := e.term.identifier?

def type (e : Entry) : Term := e.term.type

def isProp (e : Entry) : Bool := e.type.isProp

def displayAs (format : Format) (e : Entry) : String :=
  e.name ++ " : " ++ e.type.render format none

def display (e : Entry) : String := e.displayAs .utf8

def same (a b : Entry) : Bool :=
  match a.identifier?, b.identifier? with
  | some l, some r => l == r
  | _, _ => a.name == b.name

end Entry

structure Goal where
  context : List Entry
  target : Term
  targetText : Option String := none
  deriving Inhabited, Repr

namespace Goal

def names (g : Goal) : List String := g.context.map (·.name)

def objects (g : Goal) : List Entry := g.context.filter (!·.isProp)

def propositions (g : Goal) : List Entry := g.context.filter (·.isProp)

def findByName? (g : Goal) (name : String) : Option Entry :=
  g.context.find? (·.name == name)

def findByIdentifier? (g : Goal) (identifier : String) : Option Entry :=
  g.context.find? (·.identifier? == some identifier)

def hasUniqueNames (g : Goal) : Bool :=
  decide g.names.Nodup

def displayAs (format : Format) (g : Goal) : String :=
  Text.join "\n" (g.context.map (·.displayAs format) ++ ["⊢ " ++ g.target.render format none])

def display (g : Goal) : String := g.displayAs .utf8

end Goal

structure ProofState where
  goals : List Goal := []
  deriving Inhabited, Repr

namespace ProofState

def mainGoal? (s : ProofState) : Option Goal := s.goals.head?

def goalCount (s : ProofState) : Nat := s.goals.length

def isComplete (s : ProofState) : Bool := s.goals.isEmpty

def anchor (s : ProofState) (step : Option Nat) : ProofState :=
  { goals := s.goals.mapIdx fun goal g =>
      { g with context := g.context.mapIdx fun index e => { e with position := ⟨step, goal, index⟩ } } }

end ProofState

/-! ### Differences -/

/-- The goal of the old state that the new goal at `index` comes from, where the step added `delta`
goals. New goals descend from the main goal; closed ones leave the others shifted. -/
def matchingGoal (index : Nat) (delta : Int) : Nat :=
  if 0 ≤ delta then index - delta.toNat else index + (-delta).toNat

namespace ProofState

def delta (old new : ProofState) : Int :=
  (new.goalCount : Int) - old.goalCount

def ancestor? (old new : ProofState) (index : Nat) : Option Goal :=
  old.goals[matchingGoal index (delta old new)]?

def tagEntry (old? : Option Goal) (step : Option Nat) (e : Entry) : Entry :=
  match old?.bind fun g => g.context.find? (·.same e) with
  | some before =>
    if before.type.alphaEq e.type then { e with change := .unchanged, origin := before.origin }
    else { e with change := .modified, origin := step }
  | none => { e with change := .new, origin := step }

def tagAgainst (new old : ProofState) (step : Option Nat) : ProofState :=
  anchor
    { goals := new.goals.mapIdx fun i g =>
        { g with context := g.context.map (tagEntry (ancestor? old new i) step) } }
    step

end ProofState

structure GoalDiff where
  added : List Entry := []
  removed : List Entry := []
  modified : List (Entry × Entry) := []
  targetChanged : Bool := false
  targets : Option (Term × Term) := none
  deriving Inhabited, Repr

namespace Goal

def diff (old new : Goal) : GoalDiff :=
  let changed := !old.target.alphaEq new.target
  { added := new.context.filter fun e => (old.context.find? (·.same e)).isNone
    removed := old.context.filter fun e => !new.context.any (·.same e)
    modified := new.context.filterMap fun e =>
      match old.context.find? (·.same e) with
      | some before => if before.type.alphaEq e.type then none else some (before, e)
      | none => none
    targetChanged := changed
    targets := if changed then some (old.target, new.target) else none }

end Goal

namespace ProofState

def diff (old new : ProofState) : List GoalDiff :=
  new.goals.mapIdx fun i g =>
    match ancestor? old new i with
    | some before => before.diff g
    | none => { added := g.context }

end ProofState

/-! ### Labels -/

inductive SubgoalKind where
  | conjunction | iff | cases | disjunction | auxiliary | generic
  deriving DecidableEq, Repr, Inhabited

namespace SubgoalKind

def all : List SubgoalKind := [.conjunction, .iff, .cases, .disjunction, .auxiliary, .generic]

def name : SubgoalKind → String
  | .conjunction => "conjunction"
  | .iff => "iff"
  | .cases => "cases"
  | .disjunction => "disjunction"
  | .auxiliary => "auxiliary"
  | .generic => "generic"

def ofName? (name : String) : Option SubgoalKind :=
  all.find? fun kind => kind.name == name

def ordinal : Nat → String
  | 0 => "first"
  | 1 => "second"
  | 2 => "third"
  | 3 => "fourth"
  | _ => "next"

def capitalOrdinal : Nat → String
  | 0 => "First"
  | 1 => "Second"
  | 2 => "Third"
  | 3 => "Fourth"
  | _ => "Next"

def label (kind : SubgoalKind) (diff? : Option GoalDiff) (index : Nat) (goal : Goal) : String :=
  let target := goal.target.display
  let subgoal := "Sub-goal " ++ toString (index + 1) ++ ": " ++ target
  match kind with
  | .conjunction => "Proof of " ++ ordinal index ++ " conjunct: " ++ target
  | .iff => "Proof of " ++ ordinal index ++ " implication: " ++ target
  | .disjunction => capitalOrdinal index ++ " disjunct: " ++ target
  | .cases =>
    let assumption :=
      match diff?.bind fun d => d.added.reverse.find? (·.isProp) with
      | some e => e.type.display
      | none => target
    capitalOrdinal index ++ " case: assuming " ++ assumption
  | .auxiliary => if index = 0 then "Proof of auxiliary property: " ++ target else subgoal
  | .generic => subgoal

end SubgoalKind

namespace ProofState

def subgoalLabels (kind : SubgoalKind) (before after : ProofState) (delta : Nat) : List String :=
  let diffs := diff before after
  (after.goals.take (delta + 1)).mapIdx fun i g => kind.label diffs[i]? i g

end ProofState

end ProofTutor
