import ProofTutor.Proofs.Step.Answers
import ProofTutor.Proofs.Term.Twins

/-! An implication and its premise may be selected in either order. The entries are tried one way
and then the other, and never fit both ways: the premise is a part of the implication, so the type
of the other entry has fewer nodes. -/
namespace ProofTutor.Workbench
variable {w : Workbench} {a : Action} {s t : String} {x y : Entry}

theorem fitsSmaller (fit : fits x y = true) : y.type.nodes.length < x.type.nodes.length := by
  rw [fits] at fit
  split at fit
  · rename_i premise conclusion operands
    rw [Term.operands?] at operands
    split at operands
    · rename_i p q children
      split at operands
      · cases operands
        rw [← Term.alphaEqSize premise fit, Term.nodesNode x.type, children, List.length_cons,
          List.flatMap_cons, List.length_append]
        omega
      · cases operands
    · cases operands
  · cases fit

theorem fitsOnce : ¬ (fits x y = true ∧ fits y x = true) :=
  fun both => (fitsSmaller both.1).asymm (fitsSmaller both.2)

theorem selectedPair (first : w.find s = .ok x) (second : w.find t = .ok y) (a : Action) :
    w.selected { a with selection := [s, t] } = .ok [x, y] := by
  rw [selected, List.mapM_cons, List.mapM_cons, first, second]
  rfl

def applied (w : Workbench) (h x : Entry) : Minting Plan := do
  let new ← w.mint
  plan (tactic ("have " ++ new ++ " := " ++ h.name ++ " " ++ x.name)
    ("Property " ++ new ++ " added"))

theorem impliesPair (found : w.selected a = .ok [x, y]) : w.implies a =
    if fits x y then w.applied x y
    else if fits y x then w.applied y x
    else refuse "Select an implication and a property matching its premise" := by
  rw [implies, found]
  rfl

theorem impliesEitherOrder (first : w.find s = .ok x) (second : w.find t = .ok y) (a : Action) :
    w.answer { a with button := some .implies, selection := [s, t] } =
        w.answer { a with button := some .implies, selection := [t, s] } ∧
      ¬ (fits x y = true ∧ fits y x = true) := by
  refine ⟨?_, fitsOnce⟩
  have draft (selection : List String) :
      w.draft { a with button := some .implies, selection } =
        w.implies { a with button := some .implies, selection } := rfl
  have straight := impliesPair (selectedPair first second { a with button := some .implies })
  have swapped := impliesPair (selectedPair second first { a with button := some .implies })
  rw [answer, answer, draft, draft, straight, swapped]
  -- If both fitted, the first entry in the selection would decide which one is applied.
  by_cases fit : fits x y = true
  · have other : ¬ fits y x = true := fun back => fitsOnce ⟨fit, back⟩
    rw [if_pos fit, if_neg other, if_pos fit]
  · rw [if_neg fit, if_neg fit]

def someObject (number : Nat) : Term :=
  .bind .existential (.boundVar "x" number .sort) (.leaf .truth)

def absurdly : Entry :=
  { term := .localConstant "h" "0.h" (.binary .implies (someObject 0) (.leaf .falsity)) }

def inhabited : Entry :=
  { term := .localConstant "p" "0.p" (someObject 1) }

def refutable : Workbench :=
  { goal := { context := [inhabited, absurdly], target := .leaf .falsity } }

theorem impliesEitherOrderRenumbered :
    refutable.find "p" = .ok inhabited ∧ refutable.find "h" = .ok absurdly ∧
      refutable.answer { button := some .implies, selection := ["p", "h"] } =
        refutable.answer { button := some .implies, selection := ["h", "p"] } ∧
      ¬ (fits inhabited absurdly = true ∧ fits absurdly inhabited = true) :=
  ⟨rfl, rfl, impliesEitherOrder rfl rfl {}⟩

end ProofTutor.Workbench
