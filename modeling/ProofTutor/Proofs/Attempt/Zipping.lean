import ProofTutor.Proofs.Attempt.Invariant
import ProofTutor.Proofs.History.Zipper

/-!
The history of an attempt as a zipper, whatever the prover answers. A step that is sealed is added to
the past and cuts the future off, any other step leaves the zipper alone, and the moves in the history
are those of the zipper: they change nothing but the cursor, and the answer to the file that they send
has no part in it.
-/
namespace ProofTutor.Attempt

variable {a after : Attempt} {contents : List String}

/-! ### Moves -/

def Operation.IsMove (operation : Operation) : Prop :=
  ∀ action, operation ≠ .step action

def moved (h : History) : Operation → History
  | .step _ => h
  | .undo => h.undo?.getD h
  | .redo => h.redo?.getD h
  | .rewind => h.rewind
  | .goTo id => (h.goTo? id).getD h
  | .moveCursor move => h.moveCursor move

theorem performMoves {operation : Operation} (move : operation.IsMove)
    (performed : (a.perform operation).Returns contents after) :
    after.history = moved a.history operation := by
  cases operation with
  | step action => exact absurd rfl (move action)
  | undo =>
    obtain ⟨t, answered, rfl⟩ := Dialog.returnsMap.mp performed
    exact moveToHistory answered
  | redo =>
    obtain ⟨t, answered, rfl⟩ := Dialog.returnsMap.mp performed
    exact moveToHistory answered
  | goTo id =>
    obtain ⟨t, answered, rfl⟩ := Dialog.returnsMap.mp performed
    exact moveToHistory answered
  | rewind =>
    obtain ⟨t, answered, rfl⟩ := Dialog.returnsMap.mp performed
    exact resyncHistory answered
  | moveCursor place =>
    obtain ⟨t, answered, rfl⟩ := Dialog.returnsMap.mp performed
    exact moveCursorHistory answered

theorem movedKeeps (h : History) (operation : Operation) :
    moved h operation = { h with cursor := (moved h operation).cursor } := by
  cases operation with
  | step action => rfl
  | undo =>
    rw [moved, History.undo?]
    split <;> rfl
  | redo =>
    rw [moved, History.redo?]
    split <;> rfl
  | rewind => rfl
  | goTo id =>
    rw [moved, History.goTo?]
    cases h.line.idxOf? id <;> rfl
  | moveCursor place => rfl

structure Shifts (a : Attempt) (to? : Option Zipper) (contents : List String)
    (t : Turn (Except StepFailure Bool)) : Prop where
  goes : ∀ z, to? = some z → t.attempt.history.zipper = z ∧ t.result ≠ .ok false
  stays : to? = none → contents = [] ∧ t = { result := .ok false, attempt := a }

theorem moveToShifts {history? : Option History} {t : Turn (Except StepFailure Bool)}
    (answered : (a.moveTo history?).Returns contents t) :
    a.Shifts (history?.map (·.zipper)) contents t := by
  cases history? with
  | none =>
    obtain ⟨rfl, rfl⟩ := Dialog.returnsDone.mp answered
    exact ⟨by simp,fun _ => ⟨rfl,rfl⟩⟩
  | some history =>
    refine ⟨?_,by simp⟩
    intro z same
    cases same
    refine ⟨congrArg History.zipper (moveToHistory answered),?_⟩
    obtain ⟨_, checked, _, _, rest, _⟩ := Dialog.returnsBind.mp answered
    cases checked with
    | error failure =>
      obtain ⟨_, rfl⟩ := Dialog.returnsDone.mp rest
      simp
    | ok result =>
      obtain ⟨_, rfl⟩ := Dialog.returnsDone.mp rest
      simp

/-! ### Steps -/

theorem stepZips {action : Action} {t : Turn Outcome} (taken : (a.step action).Returns contents t) :
    (∃ id, t.result = .sealed id ∧ t.attempt.history.zipper = a.history.zipper.add id) ∨
      (∀ id, t.result ≠ .sealed id) ∧ t.attempt.history.zipper = a.history.zipper := by
  cases stepReturns taken with
  | complete solved same silent result =>
    obtain ⟨reason, result⟩ := result
    exact .inr ⟨by simp [result],by rw [same]⟩
  | refused main built same silent result =>
    refine .inr ⟨?_,by rw [same]⟩
    rcases result with ⟨request, result⟩ | ⟨reason, result⟩ <;> simp [result]
  | failed main built checked => exact .inr ⟨by simp [sealFailure],rfl⟩
  | sealed main built checked =>
    exact .inl ⟨_,rfl,History.recordSuccessZips _ _⟩

/-! ### Moves there and back -/

theorem performAllMoves {operations : List Operation} (moves : ∀ o ∈ operations, o.IsMove)
    (performed : (a.performAll operations).Returns contents after) :
    after.history = operations.foldl moved a.history := by
  induction operations generalizing a contents with
  | nil =>
    obtain ⟨_, rfl⟩ := Dialog.returnsDone.mp performed
    rfl
  | cons operation operations ih =>
    obtain ⟨move, others⟩ := List.forall_mem_cons.mp moves
    obtain ⟨_, next, _, first, rest, _⟩ := Dialog.returnsBind.mp performed
    rw [ih others rest, performMoves move first, List.foldl_cons]

theorem movedUndos {h : History} {n : Nat} (enough : n ≤ h.cursor) :
    (List.replicate n .undo).foldl moved h = { h with cursor := h.cursor - n } := by
  induction n generalizing h with
  | zero => rfl
  | succ n ih =>
    have back : moved h .undo = { h with cursor := h.cursor - 1 } := by
      rw [moved, History.undo?, History.canUndo, if_pos (by simp; omega)]
      rfl
    have less : n ≤ h.cursor - 1 := by omega
    rw [List.replicate_succ, List.foldl_cons, back, ih less, Nat.add_comm n 1, ← Nat.sub_sub]

theorem movedRedos {h : History} {n : Nat} (enough : h.cursor + n ≤ h.line.length) :
    (List.replicate n .redo).foldl moved h = { h with cursor := h.cursor + n } := by
  induction n generalizing h with
  | zero => rfl
  | succ n ih =>
    have forth : moved h .redo = { h with cursor := h.cursor + 1 } := by
      rw [moved, History.redo?, History.canRedo, if_pos (by simp; omega)]
      rfl
    have room : h.cursor + 1 + n ≤ h.line.length := by omega
    rw [List.replicate_succ, List.foldl_cons, forth, ih room, Nat.add_comm n 1, ← Nat.add_assoc]

theorem undosUndone {n : Nat} (within : a.history.cursor ≤ a.history.line.length)
    (enough : n ≤ a.history.cursor)
    (performed : (a.performAll (List.replicate n .undo ++ List.replicate n .redo)).Returns contents
      after) : after.history = a.history := by
  have moves : ∀ o ∈ List.replicate n Operation.undo ++ List.replicate n .redo, o.IsMove := by
    intro o mem
    rcases List.mem_append.mp mem with undo | redo
    · obtain ⟨_, rfl⟩ := List.mem_replicate.mp undo
      exact nofun
    · obtain ⟨_, rfl⟩ := List.mem_replicate.mp redo
      exact nofun
  have room : a.history.cursor - n + n ≤ a.history.line.length := by omega
  rw [performAllMoves moves performed, List.foldl_append, movedUndos enough, movedRedos room,
    Nat.sub_add_cancel enough]

/-! ### The zipper -/

structure Zips (a : Attempt) : Prop where
  sealed : ∀ {action contents t id}, (a.step action).Returns contents t → t.result = .sealed id →
    t.attempt.history.zipper = a.history.zipper.add id
  unsealed : ∀ {action contents t}, (a.step action).Returns contents t →
    (∀ id, t.result ≠ .sealed id) → t.attempt.history.zipper = a.history.zipper
  undo : ∀ {contents t}, a.undo.Returns contents t → a.Shifts a.history.zipper.back? contents t
  redo : ∀ {contents t}, a.redo.Returns contents t → a.Shifts a.history.zipper.forth? contents t
  rewind : ∀ {contents t}, a.rewind.Returns contents t →
    t.attempt.history.zipper = ⟨[],a.history.zipper.all⟩
  goTo : ∀ {id contents t}, (a.goTo id).Returns contents t →
    t.attempt.history.zipper.all = a.history.zipper.all ∧
      (t.attempt.history.zipper.past.getLast? = some id ↔ id ∈ a.history.zipper.all) ∧
        (id ∉ a.history.zipper.all → contents = [] ∧ t = { result := .ok false, attempt := a })
  moveCursor : ∀ {move contents t}, a.history.zipper.Adds move →
    (a.moveCursor move).Returns contents t →
      t.attempt.history.zipper = a.history.zipper.cut (a.history.zipper.place move)
  keeps : ∀ {operation contents after}, operation.IsMove →
    (a.perform operation).Returns contents after →
      after.history = { a.history with cursor := after.history.cursor }
  determined : ∀ {operation contents contents' after after'}, operation.IsMove →
    (a.perform operation).Returns contents after → (a.perform operation).Returns contents' after' →
      after.history = after'.history
  undone : ∀ {n contents after}, n ≤ a.history.cursor →
    (a.performAll (List.replicate n .undo ++ List.replicate n .redo)).Returns contents after →
      after.history = a.history

theorem goToZips {id : Nat} {t : Turn (Except StepFailure Bool)}
    (answered : (a.goTo id).Returns contents t) :
    t.attempt.history.zipper.all = a.history.zipper.all ∧
      (t.attempt.history.zipper.past.getLast? = some id ↔ id ∈ a.history.zipper.all) ∧
        (id ∉ a.history.zipper.all → contents = [] ∧ t = { result := .ok false, attempt := a }) := by
  by_cases mem : id ∈ a.history.zipper.all
  · obtain ⟨moved, before, after, found, all, zipper⟩ := History.goToZips mem
    have same := moveToHistory answered
    rw [found] at same
    rw [same, Option.getD_some, zipper, all]
    exact ⟨by simp [Zipper.all],by simp,by simp⟩
  · have shifts := moveToShifts answered
    rw [History.goToStays mem] at shifts
    obtain ⟨rfl, rfl⟩ := shifts.stays rfl
    refine ⟨rfl,⟨fun last => ?_,fun inside => absurd inside mem⟩,fun _ => ⟨rfl,rfl⟩⟩
    exact absurd (List.mem_append_left _ (List.mem_of_getLast? last)) mem

/-- The history of every attempt that operations lead to is moved as a zipper. -/
theorem historyZips (reachable : Reachable a) : Zips a := by
  have within := (reachableWellFormed reachable).cursor
  refine
    { sealed := ?sealed
      unsealed := ?unsealed
      undo := ?undo
      redo := ?redo
      rewind := ?rewind
      goTo := goToZips
      moveCursor := ?moveCursor
      keeps := ?keeps
      determined := ?determined
      undone := ?undone }
  case sealed =>
    intro action contents t id taken result
    rcases stepZips taken with ⟨other, same, zipper⟩ | ⟨unsealed, _⟩
    · cases result.symm.trans same
      exact zipper
    · exact absurd result (unsealed id)
  case unsealed =>
    intro action contents t taken unsealed
    rcases stepZips taken with ⟨id, result, _⟩ | ⟨_, zipper⟩
    · exact absurd result (unsealed id)
    · exact zipper
  case undo =>
    intro contents t answered
    rw [← History.undoZips within]
    exact moveToShifts answered
  case redo =>
    intro contents t answered
    rw [← History.redoZips]
    exact moveToShifts answered
  case rewind =>
    intro contents t answered
    rw [resyncHistory answered, History.zipperAll]
    rfl
  case moveCursor =>
    intro move contents t adds answered
    rw [moveCursorHistory answered, ← History.targetAdds within adds]
    exact History.zipperAt a.history _
  case keeps =>
    intro operation contents after move performed
    rw [performMoves move performed]
    exact movedKeeps a.history operation
  case determined =>
    intro operation contents contents' after after' move performed again
    rw [performMoves move performed, performMoves move again]
  case undone =>
    intro n contents after enough performed
    exact undosUndone within enough performed

def refusedUndo : Rehearsal :=
  let goal := some ("context:","targets:PROPERTY[P]¿=PROP_TRUE")
  { answers := [.ok { dumps := goal },.ok { dumps := goal },.ok { noGoals := true },
      .error (.refused "busy")] }

theorem historyZipsAfterUndo : ∃ a, Reachable a ∧ a.history.zipper = ⟨[0],[1]⟩ ∧ Zips a := by
  let trivial : Operation := .step { button := some .code, inputs := [.text "trivial"] }
  have played : (match (start ⟨"t",["begin"],[],none,0⟩ {}).run Rehearsal.prover refusedUndo with
      | (.ok a,rest) =>
        ((a.performAll [trivial,trivial,.undo]).run Rehearsal.prover rest).1.history.zipper == ⟨[0],[1]⟩
      | (.error _,_) => false) = true := by decide +kernel
  split at played
  · rename_i a rest begun
    obtain ⟨first, started⟩ :=
      Dialog.returnsRun Rehearsal.prover (start ⟨"t",["begin"],[],none,0⟩ {}) refusedUndo
    rw [begun] at started
    obtain ⟨contents, ran⟩ :=
      Dialog.returnsRun Rehearsal.prover (a.performAll [trivial,trivial,.undo]) rest
    have reachable := performAllReachable (.start started) ran
    exact ⟨_,reachable,eq_of_beq played,historyZips reachable⟩
  · cases played

end ProofTutor.Attempt
