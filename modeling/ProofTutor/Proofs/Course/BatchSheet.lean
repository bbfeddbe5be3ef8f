import Mathlib.Data.List.Basic
import ProofTutor.Course.BatchFile

/-! The rows of a batch file with what is asked on each of them. A source line outside the proof
bodies is a row that asks nothing, and between the `begin` and the `end` of each exercise stand its
two marked rows. The line numbers of the markers count the rows before them. -/
namespace ProofTutor

namespace Exercise

def covers (e : Exercise) (line : Nat) : Bool :=
  e.beginLine < line && line < e.endLine

end Exercise

namespace BatchFile

structure Row where
  text : String
  asks : Option (Nat × Analysis) := none
  deriving DecidableEq, Repr

def plainRow (line : String) : Row := { text := line }

def markedRows (sequence exercise : Nat) : List Row :=
  List.zipWith Row.mk (markedLines sequence exercise)
    [some (exercise, .context), some (exercise, .targets)]

def sheet (source : List String) (sequence : Nat) : (next : Nat) → List (Nat × Exercise) → List Row
  | next, [] => (source.drop next).map plainRow
  | next, (i, e) :: rest =>
    ((source.take e.beginLine).drop next).map plainRow ++
      (markedRows sequence i ++ sheet source sequence (e.endLine - 1) rest)

def Ordered (count : Nat) : (next : Nat) → List (Nat × Exercise) → Prop
  | next, [] => next < count
  | next, (_, e) :: rest =>
    next < e.beginLine ∧ e.beginLine < e.endLine ∧ Ordered count (e.endLine - 1) rest

theorem Ordered.inside {count next : Nat} {order : List (Nat × Exercise)}
    (ordered : Ordered count next order) : next < count := by
  induction order generalizing next with
  | nil => exact ordered
  | cons p order ih =>
    obtain ⟨starts, ends, rest⟩ := ordered
    have := ih rest
    omega

theorem Ordered.fits {count next : Nat} {order : List (Nat × Exercise)}
    (ordered : Ordered count next order) : ∀ p ∈ order, p.2.FitsIn count := by
  induction order generalizing next with
  | nil => simp
  | cons p order ih =>
    obtain ⟨starts, ends, rest⟩ := ordered
    have := rest.inside
    exact List.forall_mem_cons.mpr ⟨⟨by omega, ends, by omega⟩, ih rest⟩

theorem Ordered.later {count next : Nat} {order : List (Nat × Exercise)}
    (ordered : Ordered count next order) : ∀ p ∈ order, next < p.2.beginLine := by
  induction order generalizing next with
  | nil => simp
  | cons p order ih =>
    obtain ⟨starts, ends, rest⟩ := ordered
    refine List.forall_mem_cons.mpr ⟨starts, fun q among => ?_⟩
    have := ih rest q among
    omega

theorem markedTexts (sequence i : Nat) :
    (markedRows sequence i).map Row.text = markedLines sequence i := rfl

theorem plainTexts (lines : List String) : (lines.map plainRow).map Row.text = lines := by
  rw [List.map_map]
  exact List.map_id _

theorem sheetTexts (source : List String) (sequence next written : Nat)
    (order : List (Nat × Exercise)) : (assemble source sequence next written order).1 =
      (sheet source sequence next order).map Row.text := by
  induction order generalizing next written with
  | nil => exact (plainTexts _).symm
  | cons p order ih =>
    simp only [assemble, sheet, List.map_append, plainTexts, markedTexts, ih, List.append_assoc]

theorem sheetExercises (source : List String) (sequence next written : Nat)
    (order : List (Nat × Exercise)) :
    (assemble source sequence next written order).2.map Marker.exercise = order.map Prod.fst := by
  induction order generalizing next written with
  | nil => rfl
  | cons p order ih => simp only [assemble, List.map_cons, ih]

/-! ### Line numbers -/

def askedOn (markers : List Marker) (line : Nat) : Option (Nat × Analysis) :=
  markers.findSome? fun m =>
    if line = m.contextLine then some (m.exercise, .context)
    else if line = m.contextLine + 1 then some (m.exercise, .targets)
    else none

theorem exerciseAsked (f : BatchFile) (line : Nat) : f.exerciseAt? line = askedOn f.markers line :=
  rfl

theorem markersAfter {source : List String} {sequence next written : Nat}
    {order : List (Nat × Exercise)} :
    ∀ m ∈ (assemble source sequence next written order).2, written < m.contextLine := by
  induction order generalizing next written with
  | nil => simp [assemble]
  | cons p order ih =>
    simp only [assemble]
    refine List.forall_mem_cons.mpr ⟨by simp only; omega, fun m among => ?_⟩
    have := ih m among
    omega

theorem askedBefore {markers : List Marker} {line : Nat}
    (before : ∀ m ∈ markers, line < m.contextLine) : askedOn markers line = none := by
  refine List.findSome?_eq_none_iff.mpr fun m among => ?_
  have := before m among
  rw [if_neg (by omega), if_neg (by omega)]

theorem askedCons (m : Marker) (markers : List Marker) (line : Nat) :
    askedOn (m :: markers) line =
      if line = m.contextLine then some (m.exercise, .context)
      else if line = m.contextLine + 1 then some (m.exercise, .targets)
      else askedOn markers line := by
  simp only [askedOn, List.findSome?_cons]
  split <;> rename_i found <;> split at found
  · cases found
    rw [if_pos ‹_›]
  · split at found
    · cases found
      rw [if_neg ‹_›, if_pos ‹_›]
    · contradiction
  · contradiction
  · split at found
    · contradiction
    · rw [if_neg ‹_›, if_neg ‹_›]

theorem askedRow (source : List String) (sequence next written k : Nat)
    (order : List (Nat × Exercise)) :
    askedOn (assemble source sequence next written order).2 (written + k + 1) =
      (sheet source sequence next order)[k]?.bind Row.asks := by
  have plain (lines : List String) (k : Nat) : (lines.map plainRow)[k]?.bind Row.asks = none := by
    rw [List.getElem?_map]
    cases lines[k]? <;> rfl
  induction order generalizing next written k with
  | nil => exact (plain _ k).symm
  | cons p order ih =>
    simp only [assemble, sheet]
    generalize keptIs : (source.take p.2.beginLine).drop next = kept
    rw [askedCons]
    simp only
    by_cases early : k < kept.length
    · rw [if_neg (by omega), if_neg (by omega), List.getElem?_append_left (by simpa using early),
        plain]
      exact askedBefore fun m among => by have := markersAfter m among; omega
    · rw [List.getElem?_append_right (by simpa using early), List.length_map]
      obtain ⟨j, rfl⟩ : ∃ j, k = kept.length + j := ⟨k - kept.length, by omega⟩
      rw [Nat.add_sub_cancel_left]
      match j with
      | 0 => rw [if_pos (by omega)]; rfl
      | 1 => rw [if_neg (by omega), if_pos (by omega)]; rfl
      | j + 2 =>
        rw [if_neg (by omega), if_neg (by omega)]
        have later := ih (p.2.endLine - 1) (written + kept.length + 2) j
        rw [show written + kept.length + 2 + j + 1 = written + (kept.length + (j + 2)) + 1 by omega]
          at later
        exact later

/-! ### Where an exercise stands -/

theorem sheetHead {source : List String} {sequence next : Nat} {order : List (Nat × Exercise)}
    (ordered : Ordered source.length next order) :
    (sheet source sequence next order).head? = source[next]?.map plainRow := by
  cases order with
  | nil => rw [sheet, List.head?_map, List.head?_drop]
  | cons p order =>
    obtain ⟨line, present⟩ : ∃ line, source[next]? = some line :=
      ⟨_, List.getElem?_eq_getElem ordered.inside⟩
    rw [sheet, List.head?_append, List.head?_map, List.head?_drop,
      List.getElem?_take_of_lt ordered.1, present]
    rfl

theorem keptLast {source : List String} {next stop : Nat} (starts : next < stop)
    (inside : stop ≤ source.length) :
    ((source.take stop).drop next).getLast? = source[stop - 1]? := by
  have length : (source.take stop).length = stop := List.length_take_of_le inside
  rw [List.getLast?_drop, if_neg (by omega), List.getLast?_eq_getElem?, length,
    List.getElem?_take_of_lt (by omega)]

theorem exercisePlaced {source : List String} {next : Nat} (sequence written : Nat)
    {order : List (Nat × Exercise)} (ordered : Ordered source.length next order) {i : Nat}
    {e : Exercise} (among : (i, e) ∈ order) :
    ∃ before after, sheet source sequence next order = before ++ (markedRows sequence i ++ after) ∧
      before.getLast? = source[e.beginLine - 1]?.map plainRow ∧
      after.head? = source[e.endLine - 1]?.map plainRow ∧
      { exercise := i, contextLine := written + before.length + 1 } ∈
        (assemble source sequence next written order).2 := by
  induction order generalizing next written with
  | nil => simp at among
  | cons p order ih =>
    obtain ⟨starts, ends, rest⟩ := ordered
    have inside := rest.inside
    simp only [assemble, sheet]
    generalize keptIs : (source.take p.2.beginLine).drop next = kept
    rcases List.mem_cons.mp among with rfl | later
    · refine ⟨kept.map plainRow, _, rfl, ?_, sheetHead rest, ?_⟩
      · rw [List.getLast?_map, ← keptIs, keptLast starts (by simp only at *; omega)]
      · rw [List.length_map]
        exact List.mem_cons_self
    · obtain ⟨before, after, split, opens, closes, numbered⟩ :=
        ih (written + kept.length + 2) rest later
      refine ⟨kept.map plainRow ++ (markedRows sequence p.1 ++ before), after, ?_, ?_, closes, ?_⟩
      · simp only [split, List.append_assoc]
      · have nonempty : before ≠ [] := by
          rintro rfl
          have missing := List.getElem?_eq_none_iff.mp (Option.map_eq_none_iff.mp opens.symm)
          obtain ⟨_, _, _⟩ : e.FitsIn source.length := rest.fits _ later
          omega
        rw [List.getLast?_append_of_ne_nil _ (by simp [nonempty]),
          List.getLast?_append_of_ne_nil _ nonempty, opens]
      · refine List.mem_cons_of_mem _ ?_
        have two : (markedRows sequence p.1).length = 2 := rfl
        simp only [List.length_append, List.length_map, two]
        rw [show written + (kept.length + (2 + before.length)) + 1 =
          written + kept.length + 2 + before.length + 1 by omega]
        exact numbered

/-! ### The rows that ask nothing -/

theorem numbersBetween {source : List String} {start stop n : Nat} {line : String}
    (among : (line, n) ∈ ((source.zipIdx 1).take stop).drop start) : start < n ∧ n ≤ stop := by
  obtain ⟨k, found⟩ := List.mem_iff_getElem?.mp among
  rw [List.getElem?_drop] at found
  obtain ⟨short, there⟩ := List.getElem?_eq_some_iff.mp found
  have bound : start + k < stop := by
    have := List.length_take_le stop (source.zipIdx 1)
    omega
  rw [List.getElem?_take_of_lt bound, List.getElem?_zipIdx] at found
  obtain ⟨_, _, same⟩ := Option.map_eq_some_iff.mp found
  have number := congrArg Prod.snd same
  simp only at number
  omega

theorem dropSplit {α : Type} {lines : List α} {start stop : Nat} (forward : start ≤ stop)
    (inside : stop ≤ lines.length) :
    lines.drop start = (lines.take stop).drop start ++ lines.drop stop := by
  have length : (lines.take stop).length = stop := List.length_take_of_le inside
  conv_lhs => rw [← List.take_append_drop stop lines]
  rw [List.drop_append_of_le_length (by omega)]

theorem plainSilent (lines : List String) :
    (lines.map plainRow).filter (·.asks.isNone) = lines.map plainRow :=
  List.filter_eq_self.mpr (List.forall_mem_map.mpr fun _ _ => rfl)

theorem silentRows {source : List String} {sequence next : Nat} {order : List (Nat × Exercise)}
    (ordered : Ordered source.length next order) :
    ((sheet source sequence next order).filter (·.asks.isNone)).map Row.text =
      (((source.zipIdx 1).drop next).filter fun line =>
        !order.any (·.2.covers line.2)).map Prod.fst := by
  have texts (start stop : Nat) : (((source.zipIdx 1).take stop).drop start).map Prod.fst =
      (source.take stop).drop start := by
    rw [List.map_drop, List.map_take, List.zipIdx_map_fst]
  induction order generalizing next with
  | nil =>
    rw [sheet, plainSilent, plainTexts, List.filter_eq_self.mpr (by simp), List.map_drop,
      List.zipIdx_map_fst]
  | cons p order ih =>
    obtain ⟨starts, ends, rest⟩ := ordered
    have inside := rest.inside
    have later := rest.later
    have count : (source.zipIdx 1).length = source.length := List.length_zipIdx
    have marked : (markedRows sequence p.1).filter (·.asks.isNone) = [] := rfl
    have outside : ∀ line ∈ ((source.zipIdx 1).take p.2.beginLine).drop next,
        (!(p :: order).any (·.2.covers line.2)) = true := by
      intro line among
      have bound := (numbersBetween among).2
      simp only [List.any_cons, Bool.not_eq_true', Bool.or_eq_false_iff, List.any_eq_false]
      refine ⟨by simp [Exercise.covers]; omega, fun q within => ?_⟩
      have := later q within
      simp [Exercise.covers]
      omega
    have covered : ∀ line ∈ ((source.zipIdx 1).take (p.2.endLine - 1)).drop p.2.beginLine,
        ¬ (!(p :: order).any (·.2.covers line.2)) = true := by
      intro line among
      have bound := numbersBetween among
      have own : p.2.covers line.2 = true := by simp [Exercise.covers]; omega
      simp [own]
    have beyond : ∀ line ∈ (source.zipIdx 1).drop (p.2.endLine - 1),
        (!(p :: order).any (·.2.covers line.2)) = !order.any (·.2.covers line.2) := by
      intro line among
      rw [← List.take_length (l := source.zipIdx 1)] at among
      have bound := (numbersBetween among).1
      have own : p.2.covers line.2 = false := by simp [Exercise.covers]; omega
      simp [own]
    have pieces : (source.zipIdx 1).drop next =
        ((source.zipIdx 1).take p.2.beginLine).drop next ++
          (((source.zipIdx 1).take (p.2.endLine - 1)).drop p.2.beginLine ++
            (source.zipIdx 1).drop (p.2.endLine - 1)) := by
      rw [← dropSplit (by omega) (by omega), ← dropSplit (by omega) (by omega)]
    rw [sheet, List.filter_append, List.filter_append, marked, plainSilent, List.nil_append,
      List.map_append, plainTexts, ih rest, pieces, List.filter_append, List.filter_append,
      List.filter_eq_self.mpr outside, List.filter_eq_nil_iff.mpr covered, List.nil_append,
      List.filter_congr beyond, List.map_append, texts]

end BatchFile

end ProofTutor
