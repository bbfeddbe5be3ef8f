import Mathlib.Data.List.Forall2
import ProofTutor.Goal.Basic

/-!
The tags that a step leaves on the entries of a state are its differences from the state before,
entry by entry and in their order. Tags and differences are made apart from one another; what they
have in common is the old entry that an entry is matched with, if there is one.
-/

namespace ProofTutor.ProofState

/-! ### Where entries stand -/

def entryAt? (s : ProofState) (goal index : Nat) : Option Entry :=
  s.goals[goal]?.bind fun g => g.context[index]?

theorem entryAtAnchor (s : ProofState) (step : Option Nat) (goal index : Nat) :
    (s.anchor step).entryAt? goal index =
      (s.entryAt? goal index).map fun e => { e with position := ⟨step,goal,index⟩ } := by
  simp only [entryAt?, anchor, List.getElem?_mapIdx]
  cases s.goals[goal]? with
  | none => rfl
  | some g => simp

theorem tagEntryOrigin (old? : Option Goal) (step : Option Nat) (e : Entry) :
    (tagEntry old? step e).origin = step ∨ ∃ g before, old? = some g ∧ before ∈ g.context ∧
      (tagEntry old? step e).origin = before.origin := by
  simp only [tagEntry]
  split
  · rename_i before found
    obtain ⟨g, rfl, first⟩ := Option.bind_eq_some_iff.mp found
    split
    · exact .inr ⟨g,before,rfl,List.mem_of_find?_eq_some first,rfl⟩
    · exact .inl rfl
  · exact .inl rfl

theorem tagAgainstEntry {new old : ProofState} {step : Option Nat} {goal index : Nat} {e : Entry}
    (found : (new.tagAgainst old step).entryAt? goal index = some e) :
    e.position = ⟨step,goal,index⟩ ∧ (e.origin = step ∨ ∃ goal index before,
      old.entryAt? goal index = some before ∧ e.origin = before.origin) := by
  rw [tagAgainst, entryAtAnchor] at found
  obtain ⟨tagged, inside, rfl⟩ := Option.map_eq_some_iff.mp found
  refine ⟨rfl,?_⟩
  obtain ⟨g, atGoal, atIndex⟩ := Option.bind_eq_some_iff.mp inside
  simp only [List.getElem?_mapIdx, Option.map_eq_some_iff] at atGoal
  obtain ⟨original, _, rfl⟩ := atGoal
  rw [List.getElem?_map, Option.map_eq_some_iff] at atIndex
  obtain ⟨entry, _, rfl⟩ := atIndex
  rcases tagEntryOrigin (ancestor? old new goal) step entry with own | ⟨g, before, found, mem, same⟩
  · exact .inl own
  · obtain ⟨place, here⟩ := List.mem_iff_getElem?.mp mem
    exact .inr ⟨_,place,before,Option.bind_eq_some_iff.mpr ⟨g,found,here⟩,same⟩

end ProofTutor.ProofState

/-! ### Differences -/

namespace ProofTutor

theorem Goal.modifiedEntries (g h : Goal) : (g.diff h).modified.map Prod.snd = h.context.filter fun e =>
    (g.context.find? (·.same e)).any fun before => !before.type.alphaEq e.type := by
  rw [diff, List.map_filterMap, ← List.filterMap_eq_filter]
  refine List.filterMap_congr fun e _ => ?_
  cases entry : g.context.find? (·.same e) with
  | none => simp [Option.guard, entry]
  | some first => cases alike : first.type.alphaEq e.type <;> simp [Option.guard, entry, alike]

namespace ProofState

def matched? (old new : ProofState) (index : Nat) (e : Entry) : Option Entry :=
  (ancestor? old new index).bind fun g => g.context.find? (·.same e)

structure Retagged (step : Option Nat) (before? : Option Entry) (plain tagged : Entry) : Prop where
  term : tagged.term = plain.term
  new : tagged.change = .new ↔ before? = none
  modified : tagged.change = .modified ↔
    ∃ before, before? = some before ∧ before.type.alphaEq plain.type = false
  unchanged : tagged.change = .unchanged ↔
    ∃ before, before? = some before ∧ before.type.alphaEq plain.type = true
  appeared : tagged.change ≠ .unchanged → tagged.origin = step
  stayed : tagged.change = .unchanged → before?.map Entry.origin = some tagged.origin

structure Shows (d : GoalDiff) (tagged : Goal) : Prop where
  new : (tagged.context.filter (·.change = .new)).map Entry.term = d.added.map Entry.term
  modified : (tagged.context.filter (·.change = .modified)).map Entry.term =
    d.modified.map (·.2.term)

/-! ### One entry -/

theorem tagEntryRetagged (old? : Option Goal) (step : Option Nat) (e : Entry) (place : Position) :
    Retagged step (old?.bind fun g => g.context.find? (·.same e)) e
      { tagEntry old? step e with position := place } := by
  simp only [tagEntry]
  split
  · rename_i before found
    cases alike : before.type.alphaEq e.type <;> constructor <;> simp [found, alike]
  · rename_i found
    constructor <;> simp [found]

/-! ### One goal -/

section Goal
variable {old new : ProofState} {step : Option Nat} {index : Nat} {g : Goal}

theorem goalTagged (found : new.goals[index]? = some g) :
    (new.tagAgainst old step).goals[index]? = some
      { g with
        context := (g.context.map (tagEntry (ancestor? old new index) step)).mapIdx
          fun place e => { e with position := ⟨step,index,place⟩ } } := by
  simp [tagAgainst, anchor, found]

theorem mapIdxRelated {α β γ : Type} {related : α → γ → Prop} {f : α → β} {place : Nat → β → γ}
    (own : ∀ k x, related x (place k (f x))) (xs : List α) :
    List.Forall₂ related xs ((xs.map f).mapIdx place) := by
  induction xs generalizing place with
  | nil => exact .nil
  | cons x xs ih =>
    rw [List.map_cons, List.mapIdx_cons]
    exact .cons (own 0 x) (ih fun k => own (k + 1))

theorem keptRelated {α : Type} {related : Entry → Entry → Prop} {p q : Entry → Bool}
    {field : Entry → α} {xs ys : List Entry} (all : List.Forall₂ related xs ys)
    (same : ∀ {x y}, related x y → field x = field y)
    (both : ∀ {x y}, related x y → (p x = true ↔ q y = true)) :
    (ys.filter q).map field = (xs.filter p).map field := by
  have kept := List.rel_filter (fun _ _ pair => both pair) all
  have fields : List.Forall₂ (· = ·) ((xs.filter p).map field) ((ys.filter q).map field) :=
    List.forall₂_map_left_iff.mpr (List.forall₂_map_right_iff.mpr (kept.imp fun _ _ => same))
  rw [List.forall₂_eq_eq_eq] at fields
  exact fields.symm

theorem diffAt (old : ProofState) (found : new.goals[index]? = some g) :
    ∃ d, (diff old new)[index]? = some d ∧
      d.added = g.context.filter (fun e => (matched? old new index e).isNone) ∧
      d.modified.map Prod.snd = g.context.filter fun e =>
        (matched? old new index e).any fun before => !before.type.alphaEq e.type := by
  rw [diff, List.getElem?_mapIdx, found, Option.map_some]
  refine ⟨_,rfl,?_⟩
  cases aligned : ancestor? old new index with
  | none => simp [matched?, aligned]
  | some before =>
    refine ⟨by simp [matched?, aligned, Goal.diff],?_⟩
    simp only [matched?, aligned, Option.bind_some]
    exact before.modifiedEntries g

theorem goalRetagged (old : ProofState) (step : Option Nat) (found : new.goals[index]? = some g) :
    ∃ t, (new.tagAgainst old step).goals[index]? = some t ∧
      t.target = g.target ∧ t.targetText = g.targetText ∧
      List.Forall₂ (fun plain => Retagged step (matched? old new index plain) plain)
        g.context t.context :=
  ⟨_,goalTagged found,rfl,rfl,mapIdxRelated (fun _ e => tagEntryRetagged _ step e _) g.context⟩

theorem matchedTerm {x y : Entry} (same : y.term = x.term) :
    matched? old new index y = matched? old new index x := by
  have alike (e : Entry) : e.same y = e.same x := by
    simp only [Entry.same, Entry.name, Entry.identifier?, same]
  simp only [matched?, alike]

theorem matchedTagged : matched? old (new.tagAgainst old step) = matched? old new := by
  have count : (new.tagAgainst old step).goalCount = new.goalCount := by
    simp [tagAgainst, anchor, goalCount]
  funext index e
  simp only [matched?, ancestor?, delta, count]

theorem tagsShow {d : GoalDiff} {t : Goal}
    (retagged : List.Forall₂ (fun plain => Retagged step (matched? old new index plain) plain)
      g.context t.context)
    (added : d.added.map Entry.term =
      (g.context.filter fun e => (matched? old new index e).isNone).map Entry.term)
    (modified : d.modified.map (·.2.term) =
      (g.context.filter fun e => (matched? old new index e).any fun before =>
        !before.type.alphaEq e.type).map Entry.term) :
    Shows d t := by
  have terms {x y : Entry} (pair : Retagged step (matched? old new index x) x y) :
      x.term = y.term := pair.term.symm
  constructor
  · rw [added]
    exact keptRelated retagged terms fun pair => by simp [pair.new]
  · rw [modified]
    exact keptRelated retagged terms fun pair => by simp [pair.modified, Option.any_eq_true]

end Goal

/-- Tagging changes tags, origins and positions only. In each goal the new and the modified entries are
those of its differences, whether these are taken before or after; a new or modified entry
originates in the step, any other where the entry does that it is matched with. -/
theorem tagsShowDifferences (old new : ProofState) (step : Option Nat) :
    let tagged := new.tagAgainst old step
    tagged.goals.length = new.goals.length ∧ ∀ index g, new.goals[index]? = some g →
      ∃ t before after, tagged.goals[index]? = some t ∧
        (diff old new)[index]? = some before ∧ (diff old tagged)[index]? = some after ∧
        t.target = g.target ∧ t.targetText = g.targetText ∧
        List.Forall₂ (fun plain => Retagged step (matched? old new index plain) plain)
          g.context t.context ∧
        Shows before t ∧ Shows after t := by
  intro tagged
  refine ⟨by simp [tagged, tagAgainst, anchor],fun index g found => ?_⟩
  obtain ⟨t, taggedAt, target, text, retagged⟩ := goalRetagged old step found
  obtain ⟨before, diffBefore, added, modified⟩ := diffAt old found
  obtain ⟨after, diffAfter, addedAfter, modifiedAfter⟩ := diffAt old taggedAt
  refine ⟨t,before,after,taggedAt,diffBefore,diffAfter,target,text,retagged,?_,?_⟩
  · refine tagsShow retagged (by rw [added]) ?_
    rw [← modified, List.map_map]
    rfl
  · rw [matchedTagged] at addedAfter modifiedAfter
    have terms {x y : Entry} (pair : Retagged step (matched? old new index x) x y) :
        x.term = y.term := pair.term.symm
    have matched {x y : Entry} (pair : Retagged step (matched? old new index x) x y) :
        matched? old new index y = matched? old new index x := matchedTerm pair.term
    refine tagsShow retagged ?_ ?_
    · rw [addedAfter]
      exact keptRelated retagged terms fun pair => by rw [matched pair]
    · have snd : after.modified.map (·.2.term) = (after.modified.map Prod.snd).map Entry.term := by
        rw [List.map_map]
        rfl
      rw [snd, modifiedAfter]
      exact keptRelated retagged terms fun pair => by
        rw [matched pair]
        simp only [Entry.type, pair.term]

def oneGoal : ProofState :=
  { goals := [{
      context :=
        [{ term := Term.localConstant "x" "0.x" Term.sort },
          { term := { kind := .localConstant, info := { name := some "H" }, type? := some Term.prop }
            origin := some 2 },
          { term := Term.localConstant "y" "0.x" Term.prop }]
      target := Term.prop }] }

def splitGoals : ProofState :=
  { goals := [{ context := [], target := Term.prop }, {
      context :=
        [{ term := Term.localConstant "y" "0.x" Term.prop },
          { term := Term.localConstant "H" "0.H" Term.prop },
          { term := Term.localConstant "K" "0.K" Term.prop }]
      target := Term.sort }] }

theorem tagsShowDifferencesOfSplit :
    ∃ t d, (splitGoals.tagAgainst oneGoal (some 5)).goals[1]? = some t ∧
      (diff oneGoal splitGoals)[1]? = some d ∧
      t.context.map (fun e => (e.change,e.origin)) =
        [(.modified,some 5),(.unchanged,some 2),(.new,some 5)] ∧ Shows d t := by
  obtain ⟨t, d, -, tagged, differs, -, -, -, -, told, -⟩ :=
    (tagsShowDifferences oneGoal splitGoals (some 5)).2 1 _ rfl
  have changes : ((splitGoals.tagAgainst oneGoal (some 5)).goals[1]?).map
      (·.context.map fun e => (e.change,e.origin)) =
        some [(.modified,some 5),(.unchanged,some 2),(.new,some 5)] := by decide +kernel
  rw [tagged] at changes
  exact ⟨t,d,tagged,differs,Option.some.inj changes,told⟩

end ProofState

end ProofTutor
