import ProofTutor.Proofs.Attempt.Run
import ProofTutor.Proofs.Dump.Splitting
import ProofTutor.Proofs.History.Recording
import ProofTutor.Proofs.Step.Counter
import ProofTutor.Prover.Basic

/-!
The history of an attempt is well formed after every run: every operation keeps it so, whatever the
prover answers.
-/
namespace ProofTutor

theorem GoalStack.nextLength (stack : List String) (before after : Nat) (branches : List Branch) :
    (GoalStack.next stack before after branches).length = after := by
  rw [GoalStack.next]
  generalize (if before < after then _ else _ : List String) = labels
  simp only [GoalStack.fit, List.length_append, List.length_take, List.length_map,
    List.length_range']
  omega

theorem Dump.finishOrigin {naming : Naming} {raw : RawGoal} {e : Entry}
    (mem : e ∈ (finish naming raw).context) : e.origin = none := by
  obtain ⟨_, _, rfl⟩ := List.mem_map.mp mem
  rfl

theorem Dump.decodeOrigin {naming : Naming} {context targets : String} {goal index : Nat} {e : Entry}
    (found : (decode naming context targets).state.entryAt? goal index = some e) :
    e.origin = none := by
  obtain ⟨g, atGoal, atIndex⟩ := Option.bind_eq_some_iff.mp found
  obtain ⟨raw, _, rfl⟩ := List.mem_map.mp (List.mem_of_getElem? atGoal)
  exact finishOrigin (List.mem_of_getElem? atIndex)

theorem Report.stateOrigin {naming : Naming} {r : Report} {s : ProofState}
    (reported : r.state naming = .ok s) {goal index : Nat} {e : Entry}
    (found : s.entryAt? goal index = some e) : e.origin = none := by
  rw [state] at reported
  split at reported
  · cases reported
  · split at reported
    · cases reported
      cases found
    · split at reported
      · rename_i context targets _ _
        cases decoded : (Dump.decode naming context targets).state? with
        | error warnings =>
          rw [decoded] at reported
          cases reported
        | ok shown =>
          rw [decoded] at reported
          cases reported
          rw [Dump.decodedState decoded] at found
          exact Dump.decodeOrigin found
      · cases reported

namespace Attempt

theorem startHistory {assembler : Assembler} {naming : Naming} {contents : List String}
    {a : Attempt} (started : (start assembler naming).Returns contents (.ok a)) :
    a.history.WellFormed := by
  obtain ⟨_, checked, _, answered, rest, _⟩ := Dialog.returnsBind.mp started
  cases checked with
  | error failure =>
    obtain ⟨_, other⟩ := Dialog.returnsDone.mp rest
    cases other
  | ok result =>
    obtain ⟨initial, probes⟩ := result
    obtain ⟨_, same⟩ := Dialog.returnsDone.mp rest
    cases same
    apply History.startWellFormed
    intro goal index e found
    rw [ProofState.entryAtAnchor] at found
    obtain ⟨entry, here, rfl⟩ := Option.map_eq_some_iff.mp found
    refine ⟨rfl,?_⟩
    obtain ⟨_, reported, _⟩ := checkLiveState answered
    exact (Report.stateOrigin reported here : entry.origin = none)

variable {a : Attempt} {action : Action} {goal : Goal} {plan : Plan} {counter : Nat}

theorem goesOn (main : a.history.currentState.mainGoal? = some goal) :
    a.history.currentState.goalCount ≠ 0 := by
  rw [ProofState.mainGoal?] at main
  rw [ProofState.goalCount]
  cases goals : a.history.currentState.goals with
  | nil => simp [goals] at main
  | cons g gs => simp

theorem counterKept (built : Workbench.build ⟨goal,a.naming,a.history.counter⟩ action =
      .ok (plan,counter)) {above : Step} (found : a.history.current? = some above) :
    above.counter ≤ counter := by
  have rises := Workbench.buildCounter built
  simpa only [History.counter, found] using rises

theorem failureHistory (wf : a.history.WellFormed)
    (main : a.history.currentState.mainGoal? = some goal) (failure : StepFailure) :
    ((a.submit action plan counter).2.1.sealFailure (a.submit action plan counter).2.2
      failure).attempt.history.WellFormed := by
  apply History.failureWellFormed wf
  · exact History.filedFresh wf rfl (goesOn main) rfl
  · simp [History.filed]

theorem successHistory (wf : a.history.WellFormed)
    (main : a.history.currentState.mainGoal? = some goal)
    (built : Workbench.build ⟨goal,a.naming,a.history.counter⟩ action = .ok (plan,counter))
    (after : ProofState) (probes : List Tactic.Probe) :
    ((a.submit action plan counter).2.1.sealSuccess (a.submit action plan counter).2.2 after
      probes).attempt.history.WellFormed := by
  apply History.successWellFormed wf
  · exact History.filedFresh wf rfl (goesOn main) rfl
  · rfl
  · refine ⟨⟨_,rfl,List.getElem?_concat_length⟩,rfl,?_,?_,?_,?_⟩
    · exact GoalStack.nextLength ..
    · exact List.isEmpty_iff.trans List.length_eq_zero_iff.symm
    · intro goal index e found
      exact History.taggedEntries wf (History.grownByGrows ..) found
    · intro parent above below found
      obtain ⟨current, atCurrent, same⟩ := Option.map_eq_some_iff.mp below
      obtain ⟨here, _, _⟩ := History.currentStep wf atCurrent
      obtain ⟨children, still⟩ := (History.grownByGrows ..).old _ _ here
      rw [← same, still] at found
      cases found
      exact (counterKept built atCurrent : current.counter ≤ counter)

theorem stepHistory {contents : List String} {t : Turn Outcome} (wf : a.history.WellFormed)
    (taken : (a.step action).Returns contents t) : t.attempt.history.WellFormed := by
  cases stepReturns taken with
  | complete solved same => rwa [same]
  | refused main built same => rwa [same]
  | failed main built checked => exact failureHistory wf main _
  | sealed main built checked => exact successHistory wf main built _ _

theorem moveHistory {contents : List String} {t : Turn (Except StepFailure Bool)}
    {history? : Option History} (wf : a.history.WellFormed)
    (kept : ∀ moved, history? = some moved → moved.WellFormed)
    (answered : (a.moveTo history?).Returns contents t) : t.attempt.history.WellFormed := by
  rw [moveToHistory answered]
  cases history? with
  | none => exact wf
  | some moved => exact kept moved rfl

theorem performHistory {operation : Operation} {contents : List String} {after : Attempt}
    (wf : a.history.WellFormed) (performed : (a.perform operation).Returns contents after) :
    after.history.WellFormed := by
  cases operation with
  | step action =>
    obtain ⟨t, taken, rfl⟩ := Dialog.returnsMap.mp performed
    exact stepHistory wf taken
  | undo =>
    obtain ⟨t, answered, rfl⟩ := Dialog.returnsMap.mp performed
    exact moveHistory wf (fun _ => History.undoWellFormed wf) answered
  | redo =>
    obtain ⟨t, answered, rfl⟩ := Dialog.returnsMap.mp performed
    exact moveHistory wf (fun _ => History.redoWellFormed wf) answered
  | goTo id =>
    obtain ⟨t, answered, rfl⟩ := Dialog.returnsMap.mp performed
    exact moveHistory wf (fun _ => History.goToWellFormed wf) answered
  | rewind =>
    obtain ⟨t, answered, rfl⟩ := Dialog.returnsMap.mp performed
    rw [resyncHistory answered]
    exact History.rewindWellFormed wf
  | moveCursor move =>
    obtain ⟨t, answered, rfl⟩ := Dialog.returnsMap.mp performed
    rw [moveCursorHistory answered]
    exact History.moveCursorWellFormed wf move

theorem reachableWellFormed (run : Reachable a) : a.history.WellFormed := by
  induction run with
  | start started => exact startHistory started
  | next before performed ih => exact performHistory ih performed

theorem runWellFormed {assembler : Assembler} {naming : Naming} {operations : List Operation}
    {first contents : List String} {a after : Attempt}
    (started : (start assembler naming).Returns first (.ok a))
    (performed : (a.performAll operations).Returns contents after) : after.history.WellFormed :=
  reachableWellFormed (performAllReachable (.start started) performed)

def twoAttempts : Rehearsal :=
  let goal := some ("context:","targets:PROPERTY[P]¿=PROP_TRUE")
  { answers := [.ok { dumps := goal },.ok { noGoals := true },.ok {},.ok { dumps := goal }] }

def stepUndoStep : List Operation :=
  let trivial : Operation := .step { button := some .code, inputs := [.text "trivial"] }
  [trivial,.undo,trivial]

theorem runWellFormedAfterUndo : ∃ first a contents after,
    (start { name := "t", preamble := ["begin"], closings := [] } {}).Returns first (.ok a) ∧
      (a.performAll stepUndoStep).Returns contents after ∧
      after.history.line = [1] ∧ after.history.WellFormed := by
  have played : (match (start ⟨"t",["begin"],[],none,0⟩ {}).run Rehearsal.prover twoAttempts with
      | (.ok a,rest) =>
        ((a.performAll stepUndoStep).run Rehearsal.prover rest).1.history.line == [1]
      | (.error _,_) => false) = true := by decide +kernel
  split at played
  · rename_i a rest begun
    obtain ⟨first, started⟩ :=
      Dialog.returnsRun Rehearsal.prover (start ⟨"t",["begin"],[],none,0⟩ {}) twoAttempts
    rw [begun] at started
    obtain ⟨contents, ran⟩ := Dialog.returnsRun Rehearsal.prover (a.performAll stepUndoStep) rest
    exact ⟨first,a,contents,_,started,ran,eq_of_beq played,runWellFormed started ran⟩
  · cases played

end Attempt

end ProofTutor
