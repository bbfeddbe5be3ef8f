import Mathlib.Data.List.TakeDrop
import ProofTutor.Proofs.History.WellFormed

/-!
The line of a history as a zipper: the steps before the cursor and the steps after it. Moves of the
cursor are moves of the zipper, and a new step closes it behind itself. The cursor and the distance of a
move are added in signed 64-bit words; a sum that is too large for a word is negative there, and the
move leads to the start in place of the end.
-/

namespace ProofTutor.History

def Fits (h : History) (distance : Int64) : Prop :=
  h.cursor + distance.toInt ≤ Int64.maxValue.toInt

def Towards (start place : Nat) (aim : Int) : Prop :=
  (start ≤ aim → start ≤ place) ∧ (aim ≤ start → place ≤ start)

variable {h : History} {distance : Int64}

/-! ### Sums in words -/

theorem sumInWord (h : History) (distance : Int64) :
    (Int64.ofNat h.cursor + distance).toInt = (h.cursor + distance.toInt).bmod Int64.size := by
  rw [Int64.toInt_add, Int64.toInt_ofNat', Int.bmod_add_bmod]

theorem sumFits (fits : h.Fits distance) :
    (Int64.ofNat h.cursor + distance).toInt = h.cursor + distance.toInt := by
  have above := distance.le_toInt
  have words : (Int64.size : Int) = 2 ^ 64 := rfl
  rw [Fits, Int64.toInt_maxValue] at fits
  rw [sumInWord]
  exact Int.bmod_eq_of_le (by omega) (by omega)

theorem sumWraps (room : h.cursor ≤ Int64.maxValue.toInt) (far : ¬h.Fits distance) :
    (Int64.ofNat h.cursor + distance).toInt = h.cursor + distance.toInt - Int64.size := by
  have below := distance.toInt_lt
  have words : (Int64.size : Int) = 2 ^ 64 := rfl
  rw [Int64.toInt_maxValue] at room
  rw [Fits, Int64.toInt_maxValue] at far
  rw [sumInWord, ← Int.sub_bmod_right]
  exact Int.bmod_eq_of_le (by omega) (by omega)

theorem sumExact :
    (Int64.ofNat h.cursor + distance).toInt = h.cursor + distance.toInt ↔ h.Fits distance := by
  constructor
  · intro same
    rw [Fits, ← same]
    exact Int64.toInt_le _
  · exact sumFits

theorem farForward (room : h.cursor ≤ Int64.maxValue.toInt) (far : ¬h.Fits distance) :
    0 < h.cursor ∧ 0 < distance.toInt := by
  have below := distance.toInt_lt
  rw [Int64.toInt_maxValue] at room
  rw [Fits, Int64.toInt_maxValue] at far
  omega

/-! ### Moves -/

theorem movedFits (fits : h.Fits distance) :
    ((h.moveCursor (.by distance)).cursor : Int) =
      min (h.line.length : Int) (max 0 (h.cursor + distance.toInt)) := by
  simp only [moveCursor, target, sumFits fits]
  omega

theorem movedFar (room : h.cursor ≤ Int64.maxValue.toInt) (far : ¬h.Fits distance) :
    (h.moveCursor (.by distance)).cursor = 0 := by
  have below := distance.toInt_lt
  have words : (Int64.size : Int) = 2 ^ 64 := rfl
  simp only [moveCursor, target, sumWraps room far]
  rw [Int64.toInt_maxValue] at room
  omega

theorem movedTo (h : History) (index : Nat) :
    (h.moveCursor (.to index)).cursor = min h.line.length index :=
  Nat.min_comm ..

section
variable (within : h.cursor ≤ h.line.length) (room : h.line.length ≤ Int64.maxValue.toInt)
include within room

theorem movedClamped :
    ((h.moveCursor (.by distance)).cursor : Int) =
      min (h.line.length : Int) (max 0 (h.cursor + distance.toInt)) ↔ h.Fits distance := by
  by_cases fits : h.Fits distance
  · exact iff_of_true (movedFits fits) fits
  · have started : h.cursor ≤ Int64.maxValue.toInt := by omega
    -- the move was forward, so what it asks for is not the start
    obtain ⟨behind, forward⟩ := farForward started fits
    refine iff_of_false ?_ fits
    rw [movedFar started fits]
    omega

theorem movedTowards :
    Towards h.cursor (h.moveCursor (.by distance)).cursor (h.cursor + distance.toInt) ↔
      h.Fits distance := by
  by_cases fits : h.Fits distance
  · have place := movedFits fits
    refine iff_of_true ⟨?_,?_⟩ fits <;> omega
  · have started : h.cursor ≤ Int64.maxValue.toInt := by omega
    obtain ⟨behind, forward⟩ := farForward started fits
    refine iff_of_false (fun towards => ?_) fits
    have kept := towards.1 (by omega)
    rw [movedFar started fits] at kept
    omega

end

theorem movedToTowards (within : h.cursor ≤ h.line.length) (index : Nat) :
    Towards h.cursor (h.moveCursor (.to index)).cursor index := by
  rw [movedTo]
  constructor <;> omega

end ProofTutor.History

/-! ### The zipper -/

namespace ProofTutor

structure Zipper where
  past : List Nat
  future : List Nat
  deriving DecidableEq, Repr

namespace Zipper

def all (z : Zipper) : List Nat := z.past ++ z.future

def add (z : Zipper) (id : Nat) : Zipper := ⟨z.past ++ [id],[]⟩

def back? (z : Zipper) : Option Zipper :=
  z.past.getLast?.map fun id => ⟨z.past.dropLast,id :: z.future⟩

def forth? (z : Zipper) : Option Zipper :=
  z.future.head?.map fun id => ⟨z.past ++ [id],z.future.tail⟩

def cut (z : Zipper) (place : Nat) : Zipper := ⟨z.all.take place,z.all.drop place⟩

def place (z : Zipper) (move : CursorMove) : Nat :=
  let aim : Int := match move with
    | .by distance => z.past.length + distance.toInt
    | .to index => index
  (min (max aim 0) z.all.length).toNat

def Adds (z : Zipper) : CursorMove → Prop
  | .by distance => z.past.length + distance.toInt ≤ Int64.maxValue.toInt
  | .to _ => True

end Zipper

namespace History

def zipper (h : History) : Zipper := ⟨h.past,h.future⟩

theorem zipperAll (h : History) : h.zipper.all = h.line :=
  List.take_append_drop h.cursor h.line

theorem zipperAt (h : History) (place : Nat) :
    { h with cursor := place }.zipper = h.zipper.cut place := by
  rw [Zipper.cut, zipperAll]
  rfl

theorem recordSuccessZips (h : History) (s : Step) :
    (h.recordSuccess s).zipper = h.zipper.add h.nextId := by
  have length : (h.past ++ [h.nextId]).length = h.past.length + 1 := List.length_append
  show Zipper.mk ((h.past ++ [h.nextId]).take (h.past.length + 1))
    ((h.past ++ [h.nextId]).drop (h.past.length + 1)) = ⟨h.past ++ [h.nextId],[]⟩
  rw [← length, List.take_length, List.drop_length]

theorem undoZips {h : History} (within : h.cursor ≤ h.line.length) :
    h.undo?.map zipper = h.zipper.back? := by
  rw [undo?, canUndo, Zipper.back?, zipper, past, future]
  cases place : h.cursor with
  | zero => simp
  | succ n =>
    have inside : n < h.line.length := by omega
    rw [← List.take_concat_get' h.line n inside, List.getLast?_concat, List.dropLast_concat,
      Option.map_some, if_pos (by simp), Option.map_some, zipper, past, future]
    simp only [Nat.add_sub_cancel, List.drop_eq_getElem_cons inside]

theorem redoZips (h : History) : h.redo?.map zipper = h.zipper.forth? := by
  rw [redo?, canRedo, Zipper.forth?, zipper, past, future]
  by_cases inside : h.cursor < h.line.length
  · rw [List.head?_drop, List.getElem?_eq_getElem inside, Option.map_some, List.tail_drop,
      List.take_concat_get' h.line h.cursor inside]
    simp [inside, zipper, past, future]
  · rw [List.drop_eq_nil_of_le (Nat.le_of_not_lt inside)]
    simp [inside]

theorem goToZips {h : History} {id : Nat} (mem : id ∈ h.zipper.all) :
    ∃ moved before after, h.goTo? id = some moved ∧ h.zipper.all = before ++ id :: after ∧
      moved.zipper = ⟨before ++ [id],after⟩ := by
  rw [zipperAll] at mem ⊢
  cases found : h.line.idxOf? id with
  | none => exact absurd mem (List.idxOf?_eq_none_iff.mp found)
  | some place =>
    obtain ⟨inside, own, _⟩ := List.idxOf?_eq_some_iff.mp found
    refine ⟨{ h with cursor := place + 1 },h.line.take place,h.line.drop (place + 1),?_,?_,?_⟩
    · rw [goTo?, found, Option.map_some]
    · rw [← own, ← List.drop_eq_getElem_cons inside, List.take_append_drop]
    · rw [← own, List.take_concat_get' h.line place inside]
      rfl

theorem goToStays {h : History} {id : Nat} (out : id ∉ h.zipper.all) : h.goTo? id = none := by
  rw [zipperAll] at out
  rw [goTo?, List.idxOf?_eq_none_iff.mpr out]
  rfl

theorem targetAdds {h : History} (within : h.cursor ≤ h.line.length) {move : CursorMove}
    (adds : h.zipper.Adds move) : min (h.target move) h.line.length = h.zipper.place move := by
  have length : h.zipper.past.length = h.cursor := List.length_take_of_le within
  match move with
  | .to index =>
    simp only [target, Zipper.place, zipperAll]
    omega
  | .by distance =>
    rw [Zipper.Adds, length] at adds
    simp only [target, sumFits adds, Zipper.place, zipperAll, length]
    omega

end History

end ProofTutor
