import ProofTutor.Attempt.Basic
import ProofTutor.Prover.Basic

/-!
Runs of an attempt: a successful start and any operations after it, with a prover that may answer
anything. Every operation is described by what it leaves, for each of the results that its dialog can
have, and a prover in whatever state leads the dialog to one of them.
-/

namespace ProofTutor.Dialog

/-! ### Results of a dialog -/

variable {α β : Type}

theorem returnsDone {result other : α} {contents : List String} :
    (Dialog.done result).Returns contents other ↔ contents = [] ∧ other = result := by
  constructor
  · intro h
    cases h
    exact ⟨rfl,rfl⟩
  · rintro ⟨rfl, rfl⟩
    exact .done _

theorem returnsBind {d : Dialog α} {f : α → Dialog β} {contents : List String} {result : β} :
    (d.bind f).Returns contents result ↔ ∃ first x second, d.Returns first x ∧
      (f x).Returns second result ∧ contents = first ++ second := by
  constructor
  · intro h
    induction d generalizing contents with
    | done x => exact ⟨[],x,contents,.done x,h,rfl⟩
    | check content next ih =>
      cases h with
      | @check _ _ contents _ answer rest =>
        obtain ⟨first, x, second, before, after, rfl⟩ := ih answer rest
        exact ⟨content :: first,x,second,.check answer before,after,rfl⟩
    | restart next ih =>
      cases h with
      | restart answer rest =>
        obtain ⟨first, x, second, before, after, rfl⟩ := ih answer rest
        exact ⟨first,x,second,.restart answer before,after,rfl⟩
  · rintro ⟨first, x, second, before, after, rfl⟩
    induction before with
    | done x => exact after
    | check answer rest ih => exact .check answer (ih after)
    | restart answer rest ih => exact .restart answer (ih after)

theorem returnsMap {d : Dialog α} {f : α → β} {contents : List String} {result : β} :
    (f <$> d).Returns contents result ↔ ∃ x, d.Returns contents x ∧ result = f x := by
  show (d.bind fun x => Dialog.done (f x)).Returns contents result ↔ _
  rw [returnsBind]
  constructor
  · rintro ⟨first, x, second, before, after, rfl⟩
    obtain ⟨rfl, rfl⟩ := returnsDone.mp after
    exact ⟨x,by simpa using before,rfl⟩
  · rintro ⟨x, before, rfl⟩
    exact ⟨contents,x,[],before,.done _,by simp⟩

theorem returnsRun {σ : Type} (p : Prover σ) (d : Dialog α) (s : σ) :
    ∃ contents, d.Returns contents (d.run p s).1 := by
  induction d generalizing s with
  | done x => exact ⟨[],.done x⟩
  | check content next ih =>
    obtain ⟨contents, rest⟩ := ih (p.check content s).1 (p.check content s).2
    exact ⟨content :: contents,.check _ rest⟩
  | restart next ih =>
    obtain ⟨contents, rest⟩ := ih (p.restart s).1 (p.restart s).2
    exact ⟨contents,.restart _ rest⟩

end ProofTutor.Dialog

namespace ProofTutor.Attempt

/-! ### Checks -/

theorem checkLiveState {naming : Naming} {f : LiveFile} {contents : List String}
    {state : ProofState} {probes : List Tactic.Probe}
    (answered : (checkLive naming f).Returns contents (.ok (state,probes))) :
    ∃ messages, (Report.read f messages).state naming = .ok state ∧
      (Report.read f messages).probes = probes := by
  obtain ⟨_, x, _, _, rest, _⟩ := Dialog.returnsBind.mp answered
  cases x with
  | error failure =>
    obtain ⟨_, other⟩ := Dialog.returnsDone.mp rest
    cases other
  | ok messages =>
    obtain ⟨_, same⟩ := Dialog.returnsDone.mp rest
    refine ⟨messages,?_⟩
    cases reported : (Report.read f messages).state naming with
    | error failure =>
      rw [reported] at same
      cases same
    | ok read =>
      rw [reported] at same
      cases same
      exact ⟨rfl,rfl⟩

/-! ### Steps -/

inductive Stepped (a : Attempt) (action : Action) : List String → Turn Outcome → Prop where
  | complete {t : Turn Outcome} (solved : a.history.currentState.mainGoal? = none)
      (same : t.attempt = a) (silent : a.step action = .done t)
      (result : ∃ reason, t.result = .wrongInput reason) : Stepped a action [] t
  | refused {goal : Goal} {refusal : Refusal} {t : Turn Outcome}
      (main : a.history.currentState.mainGoal? = some goal)
      (built : Workbench.build ⟨goal,a.naming,a.history.counter⟩ action = .error refusal)
      (same : t.attempt = a) (silent : a.step action = .done t)
      (result : (∃ request, t.result = .needsInput request) ∨ ∃ reason, t.result = .wrongInput reason) :
      Stepped a action [] t
  | failed {goal : Goal} {plan : Plan} {counter : Nat} {contents : List String}
      {failure : StepFailure} (main : a.history.currentState.mainGoal? = some goal)
      (built : Workbench.build ⟨goal,a.naming,a.history.counter⟩ action = .ok (plan,counter))
      (checked : (checkLive a.naming (a.submit action plan counter).1).Returns contents
        (.error failure)) :
      Stepped a action contents
        ((a.submit action plan counter).2.1.sealFailure (a.submit action plan counter).2.2 failure)
  | sealed {goal : Goal} {plan : Plan} {counter : Nat} {contents : List String}
      {after : ProofState} {probes : List Tactic.Probe}
      (main : a.history.currentState.mainGoal? = some goal)
      (built : Workbench.build ⟨goal,a.naming,a.history.counter⟩ action = .ok (plan,counter))
      (checked : (checkLive a.naming (a.submit action plan counter).1).Returns contents
        (.ok (after,probes))) :
      Stepped a action contents
        ((a.submit action plan counter).2.1.sealSuccess (a.submit action plan counter).2.2 after
          probes)

theorem stepReturns {a : Attempt} {action : Action} {contents : List String} {t : Turn Outcome}
    (taken : (a.step action).Returns contents t) : Stepped a action contents t := by
  generalize asked : a.step action = dialog at taken
  rw [step] at asked
  split at asked
  · rename_i solved
    subst asked
    obtain ⟨rfl, rfl⟩ := Dialog.returnsDone.mp taken
    exact .complete solved rfl (by rw [step, solved]) ⟨_,rfl⟩
  · rename_i goal main
    split at asked
    · rename_i request built
      subst asked
      obtain ⟨rfl, rfl⟩ := Dialog.returnsDone.mp taken
      exact .refused main built rfl (by simp only [step, main, built]) (.inl ⟨_,rfl⟩)
    · rename_i reason built
      subst asked
      obtain ⟨rfl, rfl⟩ := Dialog.returnsDone.mp taken
      exact .refused main built rfl (by simp only [step, main, built]) (.inr ⟨_,rfl⟩)
    · rename_i plan counter built
      subst asked
      obtain ⟨first, checked, second, answered, rest, rfl⟩ := Dialog.returnsBind.mp taken
      cases checked with
      | error failure =>
        obtain ⟨rfl, rfl⟩ := Dialog.returnsDone.mp rest
        rw [List.append_nil]
        exact .failed main built answered
      | ok result =>
        obtain ⟨rfl, rfl⟩ := Dialog.returnsDone.mp rest
        rw [List.append_nil]
        exact .sealed main built answered

/-! ### Moves -/

theorem resyncHistory {α : Type} {a : Attempt} {result : α} {contents : List String}
    {t : Turn (Except StepFailure α)} (answered : (a.resync result).Returns contents t) :
    t.attempt.history = a.history := by
  obtain ⟨_, checked, _, _, rest, _⟩ := Dialog.returnsBind.mp answered
  cases checked with
  | error failure =>
    obtain ⟨_, rfl⟩ := Dialog.returnsDone.mp rest
    rfl
  | ok result =>
    obtain ⟨_, rfl⟩ := Dialog.returnsDone.mp rest
    rfl

theorem moveToHistory {a : Attempt} {history? : Option History} {contents : List String}
    {t : Turn (Except StepFailure Bool)} (answered : (a.moveTo history?).Returns contents t) :
    t.attempt.history = history?.getD a.history := by
  cases history? with
  | none =>
    obtain ⟨_, rfl⟩ := Dialog.returnsDone.mp answered
    rfl
  | some history => exact resyncHistory answered

theorem moveCursorHistory {a : Attempt} {move : CursorMove} {contents : List String}
    {t : Turn (Except StepFailure Nat)} (answered : (a.moveCursor move).Returns contents t) :
    t.attempt.history = a.history.moveCursor move := by
  rw [moveCursor] at answered
  split at answered
  · rename_i same
    obtain ⟨_, rfl⟩ := Dialog.returnsDone.mp answered
    -- nothing is sent because the cursor stays, and the cursor is all that a move changes
    exact congrArg (fun cursor => { a.history with cursor }) same.symm
  · exact resyncHistory answered

/-! ### Runs -/

inductive Operation where
  | step (action : Action)
  | undo
  | redo
  | rewind
  | goTo (id : Nat)
  | moveCursor (move : CursorMove)

def perform (a : Attempt) : Operation → Dialog Attempt
  | .step action => Turn.attempt <$> a.step action
  | .undo => Turn.attempt <$> a.undo
  | .redo => Turn.attempt <$> a.redo
  | .rewind => Turn.attempt <$> a.rewind
  | .goTo id => Turn.attempt <$> a.goTo id
  | .moveCursor move => Turn.attempt <$> a.moveCursor move

def performAll (a : Attempt) : List Operation → Dialog Attempt
  | [] => .done a
  | operation :: operations => (a.perform operation).bind fun after => after.performAll operations

inductive Reachable : Attempt → Prop where
  | start {assembler : Assembler} {naming : Naming} {contents : List String} {a : Attempt}
      (started : (start assembler naming).Returns contents (.ok a)) : Reachable a
  | next {a after : Attempt} {operation : Operation} {contents : List String}
      (before : Reachable a) (performed : (a.perform operation).Returns contents after) :
      Reachable after

theorem performAllReachable {a after : Attempt} {operations : List Operation}
    {contents : List String} (before : Reachable a)
    (performed : (a.performAll operations).Returns contents after) : Reachable after := by
  induction operations generalizing a contents with
  | nil =>
    obtain ⟨_, rfl⟩ := Dialog.returnsDone.mp performed
    exact before
  | cons operation operations ih =>
    obtain ⟨_, next, _, first, rest, _⟩ := Dialog.returnsBind.mp performed
    exact ih (.next before first) rest

theorem runReachable {σ : Type} {p : Dialog.Prover σ} {s rest : σ} {assembler : Assembler}
    {naming : Naming} {a : Attempt} (begun : (start assembler naming).run p s = (.ok a,rest))
    (operations : List Operation) : Reachable ((a.performAll operations).run p rest).1 := by
  obtain ⟨first, started⟩ := Dialog.returnsRun p (start assembler naming) s
  rw [begun] at started
  obtain ⟨contents, ran⟩ := Dialog.returnsRun p (a.performAll operations) rest
  exact performAllReachable (.start started) ran

end ProofTutor.Attempt
