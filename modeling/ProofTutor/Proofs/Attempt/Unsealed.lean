import ProofTutor.Proofs.Attempt.Invariant

/-!
Steps that are not sealed. A step that is refused, or that needs more input, asks the prover nothing
and leaves the attempt as it is; a step that fails adds itself to the arena and changes nothing else
of the history.
-/
namespace ProofTutor

namespace History

structure AddsFailure (before after : History) (s : Step) : Prop where
  steps : after.steps = before.steps ++ [s]
  states : after.states = before.states
  line : after.line = before.line
  cursor : after.cursor = before.cursor
  currentState : after.currentState = before.currentState
  goalStack : after.goalStack = before.goalStack
  counter : after.counter = before.counter
  id : s.id = before.steps.length
  failure : s.failure ≠ none
  noState : s.after = none
  ownStack : s.goalStack = before.goalStack
  ownGoals : s.totalGoals = before.currentState.goalCount

theorem currentGrown {h after : History} (wf : h.WellFormed) (line : after.line = h.line)
    (cursor : after.cursor = h.cursor) {more : List Step} (steps : after.steps = h.steps ++ more) :
    after.current? = h.current? := by
  rw [current?, current?, cursor, line]
  cases h.cursor with
  | zero => rfl
  | succ n =>
    show h.line[n]?.bind after.step? = h.line[n]?.bind h.step?
    cases onLine : h.line[n]? with
    | none => rfl
    | some id =>
      -- the ids on the line are those of older steps
      obtain ⟨s, _, here, _⟩ := wf.path.kept id (List.mem_of_getElem? onLine)
      obtain ⟨within, _⟩ := List.getElem?_eq_some_iff.mp here
      rw [Option.bind_some, Option.bind_some, step?, step?, steps, List.getElem?_append_left within]

theorem recordFailureAdds {h : History} (wf : h.WellFormed) {s : Step} (failure : s.failure ≠ none)
    (noState : s.after = none) (ownStack : s.goalStack = h.goalStack)
    (ownGoals : s.totalGoals = h.currentState.goalCount) :
    h.AddsFailure (h.recordFailure s) (h.filed s) := by
  have current : (h.recordFailure s).current? = h.current? := currentGrown wf rfl rfl rfl
  have id : (h.recordFailure s).currentStateId = h.currentStateId := by
    rw [currentStateId, currentStateId, current]
  refine ⟨rfl,rfl,rfl,rfl,?_,?_,?_,rfl,failure,noState,ownStack,ownGoals⟩
  · rw [currentState, currentState, id]
    rfl
  · rw [goalStack, goalStack, current]
    rfl
  · rw [counter, counter, current]

end History

namespace Attempt

theorem checkFileSends {content : String} {contents : List String}
    {answer : Except StepFailure (List Message)}
    (answered : (checkFile content).Returns contents answer) :
    contents = [content] ∨ contents = [content,content] := by
  rw [checkFile] at answered
  cases answered with
  | check first rest =>
    cases first with
    | ok messages =>
      obtain ⟨rfl, _⟩ := Dialog.returnsDone.mp rest
      exact .inl rfl
    | error failure =>
      dsimp only at rest
      split at rest
      · cases rest with
        | restart restarted again =>
          cases restarted with
          | error failure =>
            obtain ⟨rfl, _⟩ := Dialog.returnsDone.mp again
            exact .inl rfl
          | ok _ =>
            cases again with
            | check second last =>
              cases second with
              | ok messages =>
                obtain ⟨rfl, _⟩ := Dialog.returnsDone.mp last
                exact .inr rfl
              | error failure =>
                obtain ⟨rfl, _⟩ := Dialog.returnsDone.mp last
                exact .inr rfl
      · obtain ⟨rfl, _⟩ := Dialog.returnsDone.mp rest
        exact .inl rfl

theorem checkLiveSends {naming : Naming} {f : LiveFile} {contents : List String} {checked : Checked}
    (answered : (checkLive naming f).Returns contents checked) :
    contents = [f.content] ∨ contents = [f.content,f.content] := by
  obtain ⟨first, x, second, sent, rest, rfl⟩ := Dialog.returnsBind.mp answered
  have quiet : second = [] := by
    cases x with
    | error failure => exact (Dialog.returnsDone.mp rest).1
    | ok messages => exact (Dialog.returnsDone.mp rest).1
  rw [quiet, List.append_nil]
  exact checkFileSends sent

def fileFor (a : Attempt) (source : String) : LiveFile :=
  (a.assembler.liveStep a.acceptedSources (some source)).1

structure FailedAs (a : Attempt) (contents : List String) (t : Turn Outcome) (id : Nat) (s : Step) :
    Prop where
  own : s.id = id
  adds : a.history.AddsFailure t.attempt.history s
  sent : ∃ source, s.submitted = some source ∧
    (contents = [(a.fileFor source).content] ∨
      contents = [(a.fileFor source).content,(a.fileFor source).content])

theorem failedStep {a : Attempt} {action : Action} {plan : Plan} {counter : Nat}
    {contents : List String} {failure : StepFailure} (wf : a.history.WellFormed)
    (checked : (checkLive a.naming (a.submit action plan counter).1).Returns contents
      (.error failure)) :
    ∃ s id,
      ((a.submit action plan counter).2.1.sealFailure (a.submit action plan counter).2.2
        failure).result = .failed id ∧
      a.FailedAs contents
        ((a.submit action plan counter).2.1.sealFailure (a.submit action plan counter).2.2 failure)
        id s := by
  refine ⟨_,_,rfl,rfl,?_,_,rfl,checkLiveSends checked⟩
  apply History.recordFailureAdds wf
  · simp [History.filed]
  · rfl
  · rfl
  · rfl

/-- Whatever the prover answers, a step that is not sealed leaves the proof as it was. -/
theorem unsealedStepKeeps {a : Attempt} (reachable : Reachable a) {action : Action}
    {contents : List String} {t : Turn Outcome} (taken : (a.step action).Returns contents t) :
    ((∃ request, t.result = .needsInput request) ∨ (∃ reason, t.result = .wrongInput reason) →
      a.step action = .done t ∧ contents = [] ∧ t.attempt = a) ∧
    (∀ id, t.result = .failed id → ∃ s, a.FailedAs contents t id s) := by
  have wf := reachableWellFormed reachable
  cases stepReturns taken with
  | complete solved same silent result =>
    obtain ⟨reason, result⟩ := result
    exact ⟨fun _ => ⟨silent,rfl,same⟩,by simp [result]⟩
  | refused main built same silent result =>
    refine ⟨fun _ => ⟨silent,rfl,same⟩,?_⟩
    rcases result with ⟨request, result⟩ | ⟨reason, result⟩ <;> simp [result]
  | failed main built checked =>
    obtain ⟨s, id, result, failedAs⟩ := failedStep wf checked
    refine ⟨by simp [result],?_⟩
    intro other same
    cases result.symm.trans same
    exact ⟨s,failedAs⟩
  | sealed main built checked =>
    refine ⟨?_,?_⟩
    · rintro (⟨request, same⟩ | ⟨reason, same⟩) <;> cases same
    · rintro id same
      cases same

def crashThenError : Rehearsal :=
  { answers :=
      [.ok { dumps := some ("context:","targets:PROPERTY[P]¿=PROP_TRUE") },.error .closed,
        .ok { error := some "apply tactic failed" }] }

def applied : Action := { button := some .code, inputs := [.text "apply h"] }

theorem unsealedStepKeepsAfterCrash : ∃ a contents t, Reachable a ∧
    (a.step applied).Returns contents t ∧ t.result = .failed 0 ∧ ∃ s, a.FailedAs contents t 0 s := by
  have played : (match (start ⟨"t",["begin"],[],none,0⟩ {}).run Rehearsal.prover crashThenError with
      | (.ok a,rest) =>
        (match ((a.step applied).run Rehearsal.prover rest).1.result with
          | .failed id => id == 0
          | _ => false)
      | (.error _,_) => false) = true := by decide +kernel
  split at played
  · rename_i a rest begun
    obtain ⟨first, started⟩ :=
      Dialog.returnsRun Rehearsal.prover (start ⟨"t",["begin"],[],none,0⟩ {}) crashThenError
    rw [begun] at started
    obtain ⟨contents, taken⟩ := Dialog.returnsRun Rehearsal.prover (a.step applied) rest
    split at played
    · rename_i id result
      obtain rfl : id = 0 := eq_of_beq played
      exact ⟨a,contents,_,.start started,taken,result,
        (unsealedStepKeeps (.start started) taken).2 0 result⟩
    · cases played
  · cases played

end Attempt

end ProofTutor
