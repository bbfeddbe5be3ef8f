import ProofTutor.Proofs.Attempt.Unsealed
import ProofTutor.Proofs.History.Zipper

/-!
Requests to move the cursor of an attempt. A request leads to the place that it asks for, cut to the
ends of the line, as long as the cursor and the distance have their sum in a signed 64-bit word; a
distance that is too far leads back to the start.
-/
namespace ProofTutor.Attempt

variable {a : Attempt} {contents : List String}

/-! ### Answers -/

theorem resyncAnswers {α : Type} {result : α} {t : Turn (Except StepFailure α)}
    (answered : (a.resync result).Returns contents t) :
    contents ≠ [] ∧ ∀ other, t.result = .ok other → other = result := by
  obtain ⟨first, checked, second, sent, rest, rfl⟩ := Dialog.returnsBind.mp answered
  have asked : first ≠ [] := by
    rcases checkLiveSends sent with same | same <;> simp [same]
  refine ⟨by simp [asked],?_⟩
  cases checked with
  | error failure =>
    obtain ⟨_, rfl⟩ := Dialog.returnsDone.mp rest
    exact nofun
  | ok read =>
    obtain ⟨_, rfl⟩ := Dialog.returnsDone.mp rest
    intro other same
    exact (Except.ok.inj same).symm

theorem moveCursorAnswers {move : CursorMove} {t : Turn (Except StepFailure Nat)}
    (answered : (a.moveCursor move).Returns contents t) :
    (∀ place, t.result = .ok place → place = t.attempt.history.cursor) ∧
      (contents = [] ↔ t.attempt.history.cursor = a.history.cursor) := by
  rw [moveCursorHistory answered]
  rw [moveCursor] at answered
  split at answered
  · rename_i stays
    obtain ⟨rfl, rfl⟩ := Dialog.returnsDone.mp answered
    refine ⟨?_,iff_of_true rfl stays⟩
    intro place same
    exact (Except.ok.inj same).symm
  · rename_i moves
    obtain ⟨asked, reported⟩ := resyncAnswers answered
    exact ⟨reported,iff_of_false asked moves⟩

/-! ### Places -/

structure Clamps (a : Attempt) : Prop where
  sum : ∀ distance : Int64,
    (Int64.ofNat a.history.cursor + distance).toInt = a.history.cursor + distance.toInt ↔
      a.history.Fits distance
  byDistance : ∀ {distance contents t}, (a.moveCursor (.by distance)).Returns contents t →
    ((t.attempt.history.cursor : Int) =
        min (a.history.line.length : Int) (max 0 (a.history.cursor + distance.toInt)) ↔
      a.history.Fits distance)
  distanceTowards : ∀ {distance contents t}, (a.moveCursor (.by distance)).Returns contents t →
    (History.Towards a.history.cursor t.attempt.history.cursor
        (a.history.cursor + distance.toInt) ↔
      a.history.Fits distance)
  tooFar : ∀ {distance contents t}, ¬a.history.Fits distance →
    (a.moveCursor (.by distance)).Returns contents t → t.attempt.history.cursor = 0
  toIndex : ∀ {index contents t}, (a.moveCursor (.to index)).Returns contents t →
    t.attempt.history.cursor = min a.history.line.length index
  indexTowards : ∀ {index contents t}, (a.moveCursor (.to index)).Returns contents t →
    History.Towards a.history.cursor t.attempt.history.cursor index
  inside : ∀ {move contents t}, (a.moveCursor move).Returns contents t →
    t.attempt.history.cursor ≤ t.attempt.history.line.length ∧
      t.attempt.history.line = a.history.line
  reported : ∀ {move contents t place}, (a.moveCursor move).Returns contents t →
    t.result = .ok place → place = t.attempt.history.cursor
  sent : ∀ {move contents t}, (a.moveCursor move).Returns contents t →
    (contents = [] ↔ t.attempt.history.cursor = a.history.cursor)

/-- The cursor of every attempt that operations lead to is moved as it is asked for, just when the
sum fits in a word. -/
theorem cursorClamped (reachable : Reachable a)
    (room : a.history.line.length ≤ Int64.maxValue.toInt) : Clamps a := by
  have within := (reachableWellFormed reachable).cursor
  refine
    { sum := fun _ => History.sumExact
      byDistance := ?byDistance
      distanceTowards := ?distanceTowards
      tooFar := ?tooFar
      toIndex := ?toIndex
      indexTowards := ?indexTowards
      inside := ?inside
      reported := ?reported
      sent := ?sent }
  case byDistance =>
    intro distance contents t answered
    rw [moveCursorHistory answered]
    exact History.movedClamped within room
  case distanceTowards =>
    intro distance contents t answered
    rw [moveCursorHistory answered]
    exact History.movedTowards within room
  case tooFar =>
    intro distance contents t far answered
    rw [moveCursorHistory answered]
    exact History.movedFar (by omega) far
  case toIndex =>
    intro index contents t answered
    rw [moveCursorHistory answered]
    exact History.movedTo a.history index
  case indexTowards =>
    intro index contents t answered
    rw [moveCursorHistory answered]
    exact History.movedToTowards within index
  case inside =>
    intro move contents t answered
    rw [moveCursorHistory answered]
    exact ⟨Nat.min_le_right ..,rfl⟩
  case reported =>
    intro move contents t place answered same
    exact (moveCursorAnswers answered).1 place same
  case sent =>
    intro move contents t answered
    exact (moveCursorAnswers answered).2

/-! ### One step -/

def oneStep : Rehearsal :=
  let goal := some ("context:","targets:PROPERTY[P]¿=PROP_TRUE")
  { answers := [.ok { dumps := goal },.ok { dumps := goal }] }

theorem oneStepReached : ∃ a, Reachable a ∧ a.history.cursor = 1 ∧ a.history.line.length = 1 := by
  let trivial : Operation := .step { button := some .code, inputs := [.text "trivial"] }
  have played : (match (start ⟨"t",["begin"],[],none,0⟩ {}).run Rehearsal.prover oneStep with
      | (.ok a,rest) =>
        let after := ((a.performAll [trivial]).run Rehearsal.prover rest).1
        after.history.cursor == 1 && after.history.line.length == 1
      | (.error _,_) => false) = true := by decide +kernel
  split at played
  · rename_i a rest begun
    simp only [Bool.and_eq_true, beq_iff_eq] at played
    exact ⟨_,runReachable begun [trivial],played⟩
  · cases played

theorem cursorClampedAfterOneStep :
    ∃ a, Reachable a ∧ a.history.line.length ≤ Int64.maxValue.toInt ∧ Clamps a := by
  obtain ⟨a, reachable, _, length⟩ := oneStepReached
  have room : a.history.line.length ≤ Int64.maxValue.toInt := by
    rw [length]
    decide
  exact ⟨a,reachable,room,cursorClamped reachable room⟩

/-- After one step, the farthest move forward leads to the start: it asks for the end, where the cursor
is already, and goes back. -/
theorem farthestMoveBack : ∃ a, Reachable a ∧ a.history.cursor = 1 ∧ a.history.line.length = 1 ∧
    ∃ contents t, (a.moveCursor (.by Int64.maxValue)).Returns contents t ∧
      t.attempt.history.cursor = 0 ∧
      min (a.history.line.length : Int) (max 0 (a.history.cursor + Int64.maxValue.toInt)) = 1 := by
  obtain ⟨a, reachable, cursor, length⟩ := oneStepReached
  have room : a.history.cursor ≤ Int64.maxValue.toInt := by
    rw [cursor]
    decide
  have far : ¬a.history.Fits Int64.maxValue := by
    rw [History.Fits, cursor]
    decide
  obtain ⟨contents, answered⟩ :=
    Dialog.returnsRun Rehearsal.prover (a.moveCursor (.by Int64.maxValue)) { answers := [] }
  refine ⟨a,reachable,cursor,length,contents,_,answered,?_,?_⟩
  · rw [moveCursorHistory answered]
    exact History.movedFar room far
  · rw [length, cursor]
    decide

end ProofTutor.Attempt
