import Mathlib.Data.List.DropRight
import ProofTutor.Proofs.Attempt.Invariant

/-!
The labels of the open goals through a run. There is always one for each goal, so the stack after a
step is never filled up or cut: the labels of the goals that the step did not touch stay the last ones.
-/
namespace ProofTutor

/-! ### The stack -/

namespace GoalStack

structure Opens (before after : Nat) (branches : List Branch) : Prop where
  more : before < after → ∃ (first : String) (others : List String),
    branches = .active first :: others.map .pending ∧ others.length = after - before
  fewer : after ≤ before → branches = []

structure Carries (old new : List String) (before after : Nat) (branches : List Branch) : Prop where
  opens : Opens before after branches
  kept : new.rtake (min after (before - 1)) = old.rtake (min after (before - 1))
  opened : before < after → new = branches.map (·.label) ++ old.drop 1
  same : after = before → new = old
  closed : after < before → new = old.drop (before - after)

theorem Opens.length {before after : Nat} {branches : List Branch}
    (opens : Opens before after branches) (more : before < after) :
    branches.length = after - before + 1 := by
  obtain ⟨first, others, rfl, count⟩ := opens.more more
  rw [List.length_cons, List.length_map, count]

theorem fitWhole {count : Nat} {labels : List String} (exact : labels.length = count) :
    fit count labels = labels := by
  subst exact
  simp [fit]

variable {stack : List String} {before after : Nat} {branches : List Branch}

theorem nextOpened (full : stack.length = before) (goesOn : before ≠ 0) (more : before < after)
    (opens : Opens before after branches) :
    next stack before after branches = branches.map (·.label) ++ stack.drop 1 := by
  have count := opens.length more
  rw [next, if_pos more]
  apply fitWhole
  rw [List.length_append, List.length_map, List.length_drop]
  omega

theorem nextClosed (full : stack.length = before) (fewer : after < before)
    (branches : List Branch) :
    next stack before after branches = stack.drop (before - after) := by
  rw [next, if_neg (by omega), if_pos fewer]
  apply fitWhole
  rw [List.length_drop]
  omega

theorem nextSame (full : stack.length = before) : next stack before before [] = stack := by
  rw [next, if_neg (Nat.lt_irrefl _), if_neg (Nat.lt_irrefl _)]
  exact fitWhole full

theorem nextCarries (full : stack.length = before) (goesOn : before ≠ 0)
    (opens : Opens before after branches) :
    Carries stack (next stack before after branches) before after branches := by
  rcases Nat.lt_trichotomy before after with more | rfl | fewer
  · have count := opens.length more
    have grown := nextOpened full goesOn more opens
    refine ⟨opens,?_,fun _ => grown,by omega,by omega⟩
    have all : min after (before - 1) = before - 1 := by omega
    have head : after - (before - 1) = (branches.map (·.label)).length := by
      rw [List.length_map]
      omega
    -- the branches are what stands before the last `before - 1` labels of the new stack
    rw [all, List.rtake, nextLength, head, grown, List.drop_left, List.rtake, full]
    congr 1
    omega
  · obtain rfl := opens.fewer (Nat.le_refl _)
    have whole := nextSame full
    exact ⟨opens,by rw [whole],by omega,fun _ => whole,by omega⟩
  · have dropped := nextClosed full fewer branches
    refine ⟨opens,?_,by omega,by omega,fun _ => dropped⟩
    have all : min after (before - 1) = after := by omega
    rw [all, List.rtake, nextLength, Nat.sub_self, List.drop_zero, dropped, List.rtake, full]

end GoalStack

/-! ### The branches of a step -/

theorem ProofState.subgoalLabelsLength (kind : SubgoalKind) (before after : ProofState)
    (delta : Nat) :
    (subgoalLabels kind before after delta).length = min (delta + 1) after.goalCount := by
  simp [subgoalLabels, goalCount]

theorem Attempt.branchesOpen {plan : Plan} (own : plan.branches = []) {before : ProofState}
    (goesOn : before.goalCount ≠ 0) (after : ProofState) :
    GoalStack.Opens before.goalCount after.goalCount (branchesOf plan before after) := by
  refine ⟨fun more => ?_,fun fewer => ?_⟩
  · have count := ProofState.subgoalLabelsLength plan.kind before after
      (after.goalCount - before.goalCount)
    rw [branchesOf, own, if_neg (by simp), if_pos more]
    obtain ⟨first, others, labels⟩ := List.exists_cons_of_length_pos
      (by omega : 0 < (ProofState.subgoalLabels plan.kind before after
        (after.goalCount - before.goalCount)).length)
    rw [labels, List.length_cons] at count
    rw [labels, List.mapIdx_cons, if_pos rfl]
    refine ⟨first,others,?_,by omega⟩
    congr 1
    exact List.ext_getElem (by simp) (by simp)
  · rw [branchesOf, own, if_neg (by simp), if_neg (by omega)]

/-! ### Runs -/

namespace History

theorem stackLength {h : History} (wf : h.WellFormed) :
    h.goalStack.length = h.currentState.goalCount := by
  cases found : h.current? with
  | none =>
    rw [goalStack, found, (currentStart wf found).2]
    exact wf.initialStack
  | some s =>
    rw [goalStack, found]
    exact (currentReaches wf found).goalStack

theorem recordedCurrent (h : History) {s : Step} (success : s.failure = none) :
    (h.recordSuccess s).current? = some (h.filed s) := by
  have own : (h.recordSuccess s).steps[h.nextId]? = some (h.filed s) := by
    rw [successSteps h success]
    exact (grownByGrows h.steps (h.filed s)).own
  show ((h.past ++ [h.nextId])[h.past.length]?.bind (h.recordSuccess s).step?) = _
  rw [List.getElem?_concat_length, Option.bind_some, step?, own]

theorem recordedStack (h : History) {s : Step} (success : s.failure = none) :
    (h.recordSuccess s).goalStack = s.goalStack := by
  rw [goalStack, recordedCurrent h success]
  rfl

theorem recordedState (h : History) (state : ProofState) {s : Step} (success : s.failure = none)
    (reached : s.after = some h.states.length) :
    ((h.pushState state).recordSuccess s).currentState = state := by
  have id : ((h.pushState state).recordSuccess s).currentStateId = h.states.length := by
    rw [currentStateId, recordedCurrent _ success, Option.bind_some]
    exact congrArg (·.getD 0) reached
  rw [currentState, id]
  show (h.states ++ [state])[h.states.length]?.getD _ = state
  rw [List.getElem?_concat_length, Option.getD_some]

end History

namespace Attempt

theorem sealedLabels (a : Attempt) {p : Pending} (success : p.step.failure = none)
    (after : ProofState) (probes : List Tactic.Probe) :
    ∃ s, (a.sealSuccess p after probes).attempt.history.current? = some s ∧
      (a.sealSuccess p after probes).result = .sealed s.id ∧
      s.branches = branchesOf p.plan a.history.currentState
        (a.sealSuccess p after probes).attempt.history.currentState ∧
      (a.sealSuccess p after probes).attempt.history.goalStack =
        GoalStack.next a.history.goalStack a.history.currentState.goalCount
          (a.sealSuccess p after probes).attempt.history.currentState.goalCount s.branches := by
  have state : (a.sealSuccess p after probes).attempt.history.currentState =
      after.tagAgainst a.history.currentState (some a.history.nextId) :=
    History.recordedState _ _ success rfl
  refine ⟨_,History.recordedCurrent _ success,rfl,?_,?_⟩
  · rw [state]
    rfl
  · rw [state]
    exact History.recordedStack _ success

structure Labelled (a : Attempt) : Prop where
  full : a.history.goalStack.length = a.history.currentState.goalCount
  carries : ∀ {goal action plan counter contents t id},
    a.history.currentState.mainGoal? = some goal →
    Workbench.build ⟨goal,a.naming,a.history.counter⟩ action = .ok (plan,counter) →
    plan.branches = [] → (a.step action).Returns contents t → t.result = .sealed id →
      ∃ s, t.attempt.history.current? = some s ∧ s.id = id ∧
        GoalStack.Carries a.history.goalStack t.attempt.history.goalStack
          a.history.currentState.goalCount t.attempt.history.currentState.goalCount s.branches

theorem labelsAttached {a : Attempt} (reachable : Reachable a) : Labelled a := by
  have full := History.stackLength (reachableWellFormed reachable)
  refine ⟨full,?_⟩
  intro goal action plan counter contents t id main built own taken result
  cases stepReturns taken with
  | complete solved same silent refused =>
    obtain ⟨reason, refused⟩ := refused
    cases refused.symm.trans result
  | refused main built same silent refused =>
    rcases refused with ⟨_, refused⟩ | ⟨_, refused⟩
    · cases refused.symm.trans result
    · cases refused.symm.trans result
  | failed main built checked => cases result
  | @sealed _ _ _ _ shown probes found planned checked =>
    cases found.symm.trans main
    cases planned.symm.trans built
    obtain ⟨s, current, sealed, branches, stack⟩ := sealedLabels (a.submit action plan counter).2.1
      (p := (a.submit action plan counter).2.2) rfl shown probes
    refine ⟨s,current,Outcome.sealed.inj (sealed.symm.trans result),?_⟩
    rw [stack]
    apply GoalStack.nextCarries full (goesOn main)
    rw [branches]
    exact branchesOpen own (goesOn main) _

def splitGoal : Rehearsal :=
  let context := "context:"
  let first := "targets:PROPERTY[P]¿=PROP_AND¿(PROP_TRUE¿, PROP_TRUE¿)"
  let split := "targets:PROPERTY[P]¿=PROP_TRUE¿¿¿PROPERTY[P]¿=PROP_TRUE"
  let last := "¿¿¿PROPERTY[Q]¿=PROP_FALSE"
  { answers := [.ok { dumps := some (context,first ++ last) },
      .ok { dumps := some (context,split ++ last) }] }

def splitting : Action := { button := some .and }

theorem labelsAttachedToSplit : ∃ a, Reachable a ∧ a.history.goalStack = ["Main goal","Goal 2"] ∧
    Labelled a ∧ ∃ goal action plan counter contents t,
      a.history.currentState.mainGoal? = some goal ∧
      Workbench.build ⟨goal,a.naming,a.history.counter⟩ action = .ok (plan,counter) ∧
      plan.branches = [] ∧ (a.step action).Returns contents t ∧ t.result = .sealed 0 ∧
      t.attempt.history.goalStack = ["Proof of first conjunct: True",
        "Proof of second conjunct: True","Goal 2"] := by
  have played : (match (start ⟨"t",["begin"],[],none,0⟩ {}).run Rehearsal.prover splitGoal with
      | (.ok a,rest) =>
        a.history.goalStack == ["Main goal","Goal 2"] &&
          ((a.history.currentState.mainGoal?.bind fun goal =>
            (Workbench.build ⟨goal,a.naming,a.history.counter⟩ splitting).toOption).map
              fun built => built.1.branches) == some [] &&
          ((a.step splitting).run Rehearsal.prover rest).1.attempt.history.goalStack ==
            ["Proof of first conjunct: True","Proof of second conjunct: True","Goal 2"] &&
          (match ((a.step splitting).run Rehearsal.prover rest).1.result with
            | .sealed id => id == 0
            | _ => false)
      | (.error _,_) => false) = true := by decide +kernel
  split at played
  · rename_i a rest begun
    obtain ⟨first, started⟩ :=
      Dialog.returnsRun Rehearsal.prover (start ⟨"t",["begin"],[],none,0⟩ {}) splitGoal
    rw [begun] at started
    obtain ⟨contents, ran⟩ := Dialog.returnsRun Rehearsal.prover (a.step splitting) rest
    simp only [Bool.and_eq_true, beq_iff_eq] at played
    obtain ⟨⟨⟨labels, planned⟩, carried⟩, sealed⟩ := played
    obtain ⟨built, found, unannounced⟩ := Option.map_eq_some_iff.mp planned
    obtain ⟨goal, main, plan⟩ := Option.bind_eq_some_iff.mp found
    have planned : Workbench.build ⟨goal,a.naming,a.history.counter⟩ splitting = .ok built := by
      cases answer : Workbench.build ⟨goal,a.naming,a.history.counter⟩ splitting with
      | error failure =>
        rw [answer] at plan
        cases plan
      | ok other =>
        rw [answer] at plan
        exact congrArg Except.ok (Option.some.inj plan)
    split at sealed
    · rename_i id result
      obtain rfl : id = 0 := eq_of_beq sealed
      have reachable := Reachable.start started
      exact ⟨a,reachable,labels,labelsAttached reachable,goal,splitting,_,_,contents,_,main,planned,
        unannounced,ran,result,carried⟩
    · cases sealed
  · cases played

end Attempt

end ProofTutor
