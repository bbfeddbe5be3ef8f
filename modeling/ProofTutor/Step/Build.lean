import ProofTutor.Goal.Basic
import ProofTutor.Step.Action
import ProofTutor.Tactic.Basic
import ProofTutor.Term.Naming

/-!
From an action on a goal to the code of a step. An action is answered by code, by a request for
more input, or by a refusal; whether the code works is the prover's decision.
-/

namespace ProofTutor

inductive InputKind where
  | choice | text | selection
  deriving DecidableEq, Repr, Inhabited

structure InputRequest where
  kind : InputKind
  prompt : String
  choices : List (String × String) := []
  deriving DecidableEq, Repr, Inhabited

inductive Refusal where
  | needsInput (request : InputRequest)
  | wrongInput (reason : String)
  deriving DecidableEq, Repr, Inhabited

namespace Refusal

def message : Refusal → String
  | .needsInput request => "more input needed: " ++ request.prompt
  | .wrongInput reason => reason

end Refusal

structure Plan where
  code : Tactic
  kind : SubgoalKind := .generic
  branches : List Branch := []
  deriving Inhabited, Repr

structure Workbench where
  goal : Goal
  naming : Naming := {}
  counter : Nat := 0

abbrev Building := Except Refusal (Plan × Nat)

/-- A building under way, from a state of the hypothesis counter to what comes of it and the state
after it. A name that was minted stays minted when the action is refused after all. -/
abbrev Minting := ExceptT Refusal (StateM Nat)

namespace Term

def operands? (kind : Kind) (t : Term) : Option (Term × Term) :=
  match t.children with
  | [a, b] => if t.kind == kind then some (a, b) else none
  | _ => none

def hasShape (kind : Kind) (t : Term) : Bool :=
  t.kind == kind &&
    match kind.arity? with
    | some 3 =>
      t.children.length == 3 &&
        (t.children[1]?.any fun v => v.kind == .boundVar && v.number?.isSome)
    | some 2 => t.children.length == 2
    | some 1 => t.children.length == 1
    | _ => true

def boundName? (t : Term) : Option String :=
  (t.boundVar?.bind (·.name?)).filter (· ≠ "")

end Term

namespace Workbench

def refuse {α : Type} (reason : String) : Except Refusal α :=
  .error (.wrongInput reason)

def ask {α : Type} (prompt : String) : Except Refusal α :=
  .error (.needsInput { kind := .text, prompt })

def find (w : Workbench) (s : String) : Except Refusal Entry :=
  match (w.goal.findByIdentifier? s).or (w.goal.findByName? s) with
  | some e => .ok e
  | none => refuse (s ++ " is not in the context")

def selected (w : Workbench) (a : Action) : Except Refusal (List Entry) :=
  a.selection.mapM w.find

def newObject (w : Workbench) (hint : String) : String :=
  Naming.freshName hint w.goal.names w.naming.allowDoublePrime

def newHypothesis (w : Workbench) : String × Nat :=
  Naming.hypothesisName w.goal.names w.counter

def mint (w : Workbench) : Minting String := do
  let (new, counter) := { w with counter := ← get }.newHypothesis
  set counter
  return new

def plan (code : Tactic) (kind : SubgoalKind := .generic) : Minting Plan :=
  return { code, kind }

def tactic (text success : String) : Tactic :=
  .atomic text { success := some success }

def universal (w : Workbench) (a : Action) : Minting Plan := do
  match ← w.selected a with
  | [] =>
    if !w.goal.target.hasShape .universal then refuse "The target is not a universal property"
    else
      let name := w.newObject (w.goal.target.boundName?.getD "x")
      plan (tactic ("intro " ++ name) ("Property " ++ name ++ " introduced"))
  | [h] =>
    if !h.type.hasShape .universal then refuse (h.name ++ " is not a universal property")
    else
      match a.textInput? 0 with
      | none => ask ("Apply " ++ h.name ++ " to which object?")
      | some term =>
        let new ← w.mint
        plan (tactic ("have " ++ new ++ " := " ++ h.name ++ " (" ++ term ++ ")")
          ("Property " ++ new ++ " added"))
  | [x, y] =>
    let instantiate (h x : Entry) : Minting Plan := do
      let new ← w.mint
      plan (tactic ("have " ++ new ++ " := " ++ h.name ++ " " ++ x.name)
        ("Property " ++ new ++ " added"))
    if x.type.hasShape .universal then instantiate x y
    else if y.type.hasShape .universal then instantiate y x
    else refuse "Select a universal property"
  | _ => refuse "Select at most two context entries"

def isExistential (t : Term) : Bool :=
  t.hasShape .existential || t.hasShape .uniqueExistential

def existential (w : Workbench) (a : Action) : Minting Plan := do
  match ← w.selected a with
  | [] =>
    if !isExistential w.goal.target then refuse "The target is not an existential property"
    else
      match a.textInput? 0 with
      | none => ask "Enter a witness"
      | some witness =>
        plan (tactic ("use " ++ witness) ("Now prove that " ++ witness ++ " suits"))
  | [h] =>
    if !isExistential h.type then refuse (h.name ++ " is not an existential property")
    else
      let object := w.newObject (h.type.boundName?.getD "x")
      let new ← w.mint
      plan (tactic ("cases " ++ h.name ++ " with " ++ object ++ " " ++ new)
        ("Object " ++ object ++ " and property " ++ new ++ " introduced"))
  | _ => refuse "Select one existential property"

def fits (h x : Entry) : Bool :=
  match h.type.operands? .implies with
  | some (premise, _) => premise.alphaEq x.type
  | none => false

def implies (w : Workbench) (a : Action) : Minting Plan := do
  match ← w.selected a with
  | [] =>
    if !w.goal.target.hasShape .implies then refuse "The target is not an implication"
    else
      let new ← w.mint
      plan (tactic ("intro " ++ new) ("Property " ++ new ++ " added to the context"))
  | [h] =>
    match h.type.operands? .implies with
    | none => refuse (h.name ++ " is not an implication")
    | some (premise, _) =>
      plan (tactic ("apply " ++ h.name) ("Target replaced by " ++ premise.display))
  | [x, y] =>
    let apply (h x : Entry) : Minting Plan := do
      let new ← w.mint
      plan (tactic ("have " ++ new ++ " := " ++ h.name ++ " " ++ x.name)
        ("Property " ++ new ++ " added"))
    if fits x y then apply x y
    else if fits y x then apply y x
    else refuse "Select an implication and a property matching its premise"
  | _ => refuse "Select at most two context entries"

def and (w : Workbench) (a : Action) : Minting Plan := do
  match ← w.selected a with
  | [] =>
    if !w.goal.target.hasShape .and then refuse "The target is not a conjunction"
    else plan (tactic "split" "Target split") .conjunction
  | [h] =>
    if !h.type.hasShape .and then refuse (h.name ++ " is not a conjunction")
    else
      let first ← w.mint
      let second ← w.mint
      plan (tactic ("cases " ++ h.name ++ " with " ++ first ++ " " ++ second)
        ("Property " ++ h.name ++ " split into " ++ first ++ " and " ++ second))
  | [x, y] =>
    if !x.isProp || !y.isProp then refuse "Select two properties"
    else
      let new ← w.mint
      plan (tactic ("have " ++ new ++ " := and.intro " ++ x.name ++ " " ++ y.name)
        ("Conjunction " ++ new ++ " added"))
  | _ => refuse "Select at most two properties"

def or (w : Workbench) (a : Action) : Minting Plan := do
  match ← w.selected a with
  | [] =>
    match w.goal.target.operands? .or with
    | none => refuse "The target is not a disjunction"
    | some (p, q) =>
      let first := "First disjunct: " ++ p.display
      let second := "Second disjunct: " ++ q.display
      let keep (side : String) (kept : Term) (branches : List Branch) : Minting Plan :=
        return { code := tactic side ("Target replaced by " ++ kept.display), kind := .disjunction,
                 branches }
      match a.choiceInput? 0 with
      | none =>
        throw (.needsInput
          { kind := .choice, prompt := "Which property will you prove?",
            choices := [("1", p.display), ("2", q.display)] })
      | some 1 => keep "left" p [.active first, .pending second]
      | some 2 => keep "right" q [.pending first, .active second]
      | some _ => refuse "Choose 1 or 2"
  | [h] =>
    if !h.type.hasShape .or then refuse (h.name ++ " is not a disjunction")
    else
      let new ← w.mint
      plan (tactic ("cases " ++ h.name ++ " with " ++ new ++ " " ++ new)
        ("Proof by cases on " ++ h.name)) .cases
  | _ => refuse "Select one disjunction"

def isCompound (t : Term) : Bool :=
  t.kind.isQuantifier || (t.kind.isPropositional && !t.children.isEmpty)

def not (w : Workbench) (a : Action) : Minting Plan := do
  match ← w.selected a with
  | [] =>
    if !w.goal.target.hasShape .not then refuse "The target is not a negation"
    else
      let new ← w.mint
      let intro := tactic ("intro " ++ new) ("Property " ++ new ++ " added to the context")
      let push := tactic "push_neg" "Negation pushed on the target"
      plan (if w.goal.target.children.head?.any isCompound then push.orElse intro else intro)
  | [h] =>
    if !h.type.hasShape .not then refuse (h.name ++ " is not a negation")
    else plan (tactic ("push_neg at " ++ h.name) ("Negation pushed on " ++ h.name))
  | _ => refuse "Select one negation"

def iff (w : Workbench) (a : Action) : Minting Plan := do
  match ← w.selected a with
  | [] =>
    if !w.goal.target.hasShape .iff then refuse "The target is not an equivalence"
    else plan (tactic "split" "Target split into two implications") .iff
  | [h] =>
    if !h.type.hasShape .iff then refuse (h.name ++ " is not an equivalence")
    else
      let first ← w.mint
      let second ← w.mint
      let code := (Tactic.atomic ("have " ++ first ++ " := " ++ h.name ++ ".mp")).andThen
        (.atomic ("have " ++ second ++ " := " ++ h.name ++ ".mpr"))
      plan (code.withSuccess ("Implications " ++ first ++ " and " ++ second ++ " added"))
  | _ => refuse "Select one equivalence"

def isEquation (e : Entry) : Bool :=
  e.type.hasShape .equals || e.type.hasShape .iff

def useEquation (h k name arrow : String) : Tactic :=
  (Tactic.inOrder
    [.atomic ("have " ++ name ++ " := " ++ k),
      .atomic ("rw " ++ arrow ++ h ++ " at " ++ name), .atomic ("clear " ++ k)]).withSuccess
    ("Property " ++ k ++ " rewritten using " ++ h)

def equal (w : Workbench) (a : Action) : Minting Plan := do
  match ← w.selected a with
  | [] =>
    if !w.goal.target.hasShape .equals then refuse "The target is not an equality"
    else plan (tactic "refl" "Target proved by reflexivity")
  | [h] =>
    if !isEquation h then refuse (h.name ++ " is not an equality")
    else
      let success := "Target rewritten using " ++ h.name
      plan ((tactic ("rw " ++ h.name) success).orElse (tactic ("rw ← " ++ h.name) success))
  | [x, y] =>
    let use (h k : Entry) : Minting Plan :=
      let name := Naming.primedName k.name w.goal.names
      plan ((useEquation h.name k.name name "").orElse
        (useEquation h.name k.name name "← "))
    if isEquation x then use x y
    else if isEquation y then use y x
    else refuse "Select an equality"
  | _ => refuse "Select an equality and at most one property"

def contradiction (w : Workbench) (a : Action) : Minting Plan := do
  match ← w.selected a with
  | [] =>
    let new ← w.mint
    plan (tactic ("by_contradiction " ++ new)
      ("Proof by contradiction: " ++ new ++ " assumes the negation of the target"))
  | [x, y] =>
    let code := (Tactic.atomic ("exact absurd " ++ x.name ++ " " ++ y.name)).orElse
      (.atomic ("exact absurd " ++ y.name ++ " " ++ x.name))
    plan (code.withSuccess ("Contradiction between " ++ x.name ++ " and " ++ y.name))
  | _ => refuse "Select no property or two contradictory properties"

def cases (w : Workbench) (a : Action) : Minting Plan :=
  if !a.selection.isEmpty then refuse "Proof by cases does not use a selection"
  else
    match a.textInput? 0 with
    | none => ask "Enter the property to split on"
    | some property => do
      let new ← w.mint
      plan (tactic ("by_cases " ++ new ++ " : (" ++ property ++ ")")
        ("Proof by cases on " ++ property)) .cases

def assumption (w : Workbench) (a : Action) : Minting Plan := do
  match ← w.selected a with
  | [] =>
    let code := (Tactic.atomic "assumption").firstOf
      [.atomic "contradiction", (Tactic.atomic "norm_num").solve1, .atomic "linarith"]
    plan (code.withSuccess "Target solved")
  | [h] => plan (tactic ("exact " ++ h.name) ("Target solved by " ++ h.name))
  | _ => refuse "Select at most one property"

def code (a : Action) : Minting Plan :=
  match a.textInput? 0 with
  | none => ask "Enter prover code"
  | some text => plan (tactic text "Code applied")

def statement (w : Workbench) (name : String) (a : Action) : Minting Plan := do
  match (← w.selected a).map (·.name) with
  | [] =>
    plan ((tactic ("rw " ++ name) ("Definition " ++ name ++ " applied to the target")).orElse
      (tactic ("apply " ++ name) ("Theorem " ++ name ++ " applied to the target")))
  | [h] =>
    let new ← w.mint
    plan
      ((tactic ("rw " ++ name ++ " at " ++ h) ("Definition " ++ name ++ " applied to " ++ h)).orElse
        (tactic ("have " ++ new ++ " := " ++ name ++ " " ++ h) ("Property " ++ new ++ " added")))
  | names =>
    let new ← w.mint
    plan (tactic ("have " ++ new ++ " := " ++ name ++ " " ++ Text.join " " names)
      ("Property " ++ new ++ " added"))

def draft (w : Workbench) (a : Action) : Minting Plan :=
  match a.button, a.statement with
  | some .universal, _ => w.universal a
  | some .existential, _ => w.existential a
  | some .implies, _ => w.implies a
  | some .and, _ => w.and a
  | some .or, _ => w.or a
  | some .not, _ => w.not a
  | some .iff, _ => w.iff a
  | some .equal, _ => w.equal a
  | some .contradiction, _ => w.contradiction a
  | some .cases, _ => w.cases a
  | some .assumption, _ => w.assumption a
  | some .code, _ => code a
  | none, some name => w.statement name a
  | none, none => refuse "Choose a logic button or a statement"

def answer (w : Workbench) (a : Action) : Except Refusal Plan × Nat :=
  (w.draft a).run.run w.counter

def build (w : Workbench) (a : Action) : Building :=
  match w.answer a with
  | (.ok plan, counter) => .ok (plan, counter)
  | (.error refusal, _) => .error refusal

end Workbench

end ProofTutor
