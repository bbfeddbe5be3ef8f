import ProofTutor.History.Basic
import ProofTutor.Proofs.Goal.Changes

/-!
Well-formed histories: every kept step fits below its parent, every state is described by the step
that led to it, and the line is a path through the steps that did not fail. A kept step leaves the older
ones as they are, except that its parent notes it as a child when it did not fail.
-/

namespace ProofTutor.History

inductive Descends (steps : List Step) : Nat → Nat → Prop where
  | self (id : Nat) : Descends steps id id
  | parent {id parent above : Nat} {s : Step} (here : steps[id]? = some s)
      (below : s.parent = some parent) (rest : Descends steps parent above) :
      Descends steps id above

structure Rooted (steps : List Step) (s : Step) : Prop where
  ofParent : ∀ parent, s.parent = some parent → parent < s.id ∧ ∃ above,
    steps[parent]? = some above ∧ above.failure = none ∧ above.after = some s.before ∧
      above.completesProof = false
  ofStart : s.parent = none → s.before = 0

structure Reaches (steps : List Step) (states : List ProofState) (s : Step) (state : ProofState) :
    Prop where
  after : ∃ after, s.after = some after ∧ states[after]? = some state
  totalGoals : s.totalGoals = state.goalCount
  goalStack : s.goalStack.length = state.goalCount
  completesProof : s.completesProof = true ↔ state.goalCount = 0
  entries : ∀ goal index e, state.entryAt? goal index = some e →
    e.position = ⟨some s.id,goal,index⟩ ∧ ∀ step, e.origin = some step → Descends steps s.id step
  counter : ∀ parent above, s.parent = some parent → steps[parent]? = some above →
    above.counter ≤ s.counter

def successes (steps : List Step) : List Step := steps.filter (·.failure.isNone)

def childrenOf (steps : List Step) (parent : Nat) : List Nat :=
  ((successes steps).filter (·.parent == some parent)).map (·.id)

structure Arena (steps : List Step) (states : List ProofState) : Prop where
  ids : ∀ (i : Nat) (s : Step), steps[i]? = some s → s.id = i
  rooted : ∀ (i : Nat) s, steps[i]? = some s → Rooted steps s
  reaches : ∀ (i : Nat) s, steps[i]? = some s → s.failure = none → ∃ state, Reaches steps states s state
  children : ∀ (i : Nat) (s : Step), steps[i]? = some s → s.children = childrenOf steps i
  stateCount : states.length = 1 + (successes steps).length

structure Path (steps : List Step) (states : List ProofState) (ids : List Nat) : Prop where
  increasing : ids.Pairwise (· < ·)
  kept : ∀ id ∈ ids, ∃ s after, steps[id]? = some s ∧ s.failure = none ∧ s.after = some after ∧
    after < states.length
  parents : ∀ (place id : Nat) (s : Step), ids[place]? = some id → steps[id]? = some s →
    s.parent = (ids.take place).getLast?

structure WellFormed (h : History) : Prop where
  arena : Arena h.steps h.states
  path : Path h.steps h.states h.line
  cursor : h.cursor ≤ h.line.length
  initialStack : h.initialStack.length = h.initialState.goalCount
  initialEntries : ∀ goal index e, h.initialState.entryAt? goal index = some e →
    e.position = ⟨none,goal,index⟩ ∧ e.origin = none

theorem startWellFormed {initial : ProofState}
    (entries : ∀ goal index e, initial.entryAt? goal index = some e →
      e.position = ⟨none,goal,index⟩ ∧ e.origin = none) : (start initial).WellFormed where
  arena := ⟨by simp [start],by simp [start],by simp [start],by simp [start],rfl⟩
  path := ⟨.nil,by simp [start],by simp [start]⟩
  cursor := Nat.le_refl 0
  initialStack := by simp [start, initialState]
  initialEntries := entries

/-! ### Moves of the cursor -/

theorem cursorWellFormed {h : History} (wf : h.WellFormed) {place : Nat}
    (within : place ≤ h.line.length) : { h with cursor := place }.WellFormed :=
  { wf with cursor := within }

theorem undoWellFormed {h moved : History} (wf : h.WellFormed) (move : h.undo? = some moved) :
    moved.WellFormed := by
  obtain ⟨_, same⟩ := Option.ite_none_right_eq_some.mp move
  cases same
  exact cursorWellFormed wf (Nat.le_trans (Nat.sub_le ..) wf.cursor)

theorem redoWellFormed {h moved : History} (wf : h.WellFormed) (move : h.redo? = some moved) :
    moved.WellFormed := by
  obtain ⟨behind, same⟩ := Option.ite_none_right_eq_some.mp move
  cases same
  exact cursorWellFormed wf (of_decide_eq_true behind)

theorem goToWellFormed {h moved : History} {id : Nat} (wf : h.WellFormed)
    (move : h.goTo? id = some moved) : moved.WellFormed := by
  obtain ⟨place, found, rfl⟩ := Option.map_eq_some_iff.mp move
  obtain ⟨within, _⟩ := List.idxOf?_eq_some_iff.mp found
  exact cursorWellFormed wf within

theorem rewindWellFormed {h : History} (wf : h.WellFormed) : h.rewind.WellFormed :=
  cursorWellFormed wf (Nat.zero_le _)

theorem moveCursorWellFormed {h : History} (wf : h.WellFormed) (move : CursorMove) :
    (h.moveCursor move).WellFormed :=
  cursorWellFormed wf (Nat.min_le_right ..)

/-! ### Growth -/

structure Grows (steps grown : List Step) (s : Step) : Prop where
  own : grown[steps.length]? = some s
  old : ∀ (i : Nat) t, steps[i]? = some t → ∃ children, grown[i]? = some { t with children }
  known : ∀ (i : Nat) t, grown[i]? = some t → (i = steps.length ∧ t = s) ∨
    ∃ old children, steps[i]? = some old ∧ t = { old with children }

def noted (steps : List Step) (parent : Option Nat) (child : Nat) : List Step :=
  match parent with
  | some parent => addChild steps parent child
  | none => steps

theorem notedLength (steps : List Step) (parent : Option Nat) (child : Nat) :
    (noted steps parent child).length = steps.length := by
  cases parent with
  | none => rfl
  | some parent => exact List.length_modify ..

theorem notedStep (steps : List Step) (parent : Option Nat) (child i : Nat) :
    (noted steps parent child)[i]? = steps[i]?.map fun t =>
      { t with children := if parent = some i then t.children ++ [child] else t.children } := by
  cases parent with
  | none => simp [noted]
  | some parent =>
    rw [noted, addChild, List.getElem?_modify]
    congr 1
    funext t
    by_cases own : parent = i
    · simp [own]
    · simp [own]

theorem notedGrows (steps : List Step) (parent : Option Nat) (child : Nat) (s : Step) :
    Grows steps (noted steps parent child ++ [s]) s where
  own := by rw [← notedLength steps parent child, List.getElem?_concat_length]
  old := by
    intro i t found
    obtain ⟨within, _⟩ := List.getElem?_eq_some_iff.mp found
    rw [List.getElem?_append_left (by rwa [notedLength]), notedStep, found]
    exact ⟨_,rfl⟩
  known := by
    intro i t found
    by_cases within : i < steps.length
    · rw [List.getElem?_append_left (by rwa [notedLength]), notedStep] at found
      obtain ⟨old, here, rfl⟩ := Option.map_eq_some_iff.mp found
      exact .inr ⟨old,_,here,rfl⟩
    · rw [List.getElem?_append_right (by rw [notedLength]; omega), notedLength] at found
      rw [List.getElem?_singleton] at found
      obtain ⟨last, same⟩ := Option.ite_none_right_eq_some.mp found
      exact .inl ⟨by omega,(Option.some.inj same).symm⟩

def bare (s : Step) : Step := { s with children := [] }

theorem notedBare (steps : List Step) (parent : Option Nat) (child : Nat) :
    (noted steps parent child).map bare = steps.map bare := by
  apply List.ext_getElem?
  intro i
  simp only [List.getElem?_map, notedStep, Option.map_map]
  rfl

theorem successesBare (steps : List Step) :
    (successes (steps.map bare)).length = (successes steps).length := by
  simp [successes, List.filter_map, Function.comp_def, bare]

theorem childrenOfBare (steps : List Step) (parent : Nat) :
    childrenOf (steps.map bare) parent = childrenOf steps parent := by
  simp [childrenOf, successes, List.filter_map, Function.comp_def, bare]

theorem successesNoted (steps : List Step) (parent : Option Nat) (child : Nat) :
    (successes (noted steps parent child)).length = (successes steps).length := by
  rw [← successesBare, notedBare, successesBare]

theorem childrenOfNoted (steps : List Step) (parent : Option Nat) (child above : Nat) :
    childrenOf (noted steps parent child) above = childrenOf steps above := by
  rw [← childrenOfBare, notedBare, childrenOfBare]

theorem successesAppend (steps : List Step) (s : Step) :
    (successes (steps ++ [s])).length =
      (successes steps).length + if s.failure = none then 1 else 0 := by
  cases failed : s.failure <;> simp [successes, failed]

theorem childrenOfAppend (steps : List Step) (s : Step) (above : Nat) :
    childrenOf (steps ++ [s]) above = childrenOf steps above ++
      if s.failure = none ∧ s.parent = some above then [s.id] else [] := by
  cases failed : s.failure with
  | some failure => simp [childrenOf, successes, failed]
  | none =>
    by_cases below : s.parent = some above
    · simp [childrenOf, successes, failed, below]
    · simp [childrenOf, successes, failed, below]

/-! ### What growth keeps -/

section Grows
variable {steps grown : List Step} {s : Step} (grows : Grows steps grown s)
include grows

theorem Grows.descends {id above : Nat} (path : Descends steps id above) :
    Descends grown id above := by
  induction path with
  | self id => exact .self id
  | parent here below rest ih =>
    obtain ⟨children, found⟩ := grows.old _ _ here
    exact .parent found below ih

theorem Grows.rooted {t : Step} (root : Rooted steps t) (children : List Nat) :
    Rooted grown { t with children } where
  ofParent := by
    intro parent below
    obtain ⟨before, above, here, success, after, goesOn⟩ := root.ofParent parent below
    obtain ⟨more, found⟩ := grows.old _ _ here
    exact ⟨before,_,found,success,after,goesOn⟩
  ofStart := root.ofStart

theorem Grows.reaches {states : List ProofState} {t : Step} {state : ProofState}
    (root : Rooted steps t) (reached : Reaches steps states t state) (children : List Nat)
    (more : List ProofState) : Reaches grown (states ++ more) { t with children } state where
  after := by
    obtain ⟨after, same, found⟩ := reached.after
    obtain ⟨within, _⟩ := List.getElem?_eq_some_iff.mp found
    exact ⟨after,same,by rwa [List.getElem?_append_left within]⟩
  totalGoals := reached.totalGoals
  goalStack := reached.goalStack
  completesProof := reached.completesProof
  entries := by
    intro goal index e found
    obtain ⟨position, origin⟩ := reached.entries goal index e found
    exact ⟨position,fun step same => grows.descends (origin step same)⟩
  counter := by
    intro parent above below found
    -- the parent is an older step, so only its children may have changed
    obtain ⟨_, old, here, _⟩ := root.ofParent parent below
    obtain ⟨more, still⟩ := grows.old _ _ here
    cases found.symm.trans still
    exact reached.counter parent old below here

end Grows

structure Fresh (steps : List Step) (s : Step) : Prop where
  id : s.id = steps.length
  root : Rooted steps s
  children : s.children = []

def notedBy (s : Step) : Option Nat :=
  if s.failure = none then s.parent else none

def grownBy (steps : List Step) (s : Step) : List Step :=
  noted steps (notedBy s) s.id ++ [s]

theorem grownByGrows (steps : List Step) (s : Step) : Grows steps (grownBy steps s) s :=
  notedGrows steps (notedBy s) s.id s

theorem childrenOfGrown (steps : List Step) (s : Step) (above : Nat) :
    childrenOf (grownBy steps s) above = childrenOf steps above ++
      if notedBy s = some above then [s.id] else [] := by
  rw [grownBy, childrenOfAppend, childrenOfNoted]
  by_cases failed : s.failure = none
  · simp [notedBy, failed]
  · simp [notedBy, failed]

theorem childrenOfNext {steps : List Step} {states : List ProofState} (arena : Arena steps states) :
    childrenOf steps steps.length = [] := by
  rw [childrenOf, List.map_eq_nil_iff, List.filter_eq_nil_iff]
  intro t mem below
  obtain ⟨i, here⟩ := List.mem_iff_getElem?.mp (List.mem_filter.mp mem).1
  obtain ⟨within, _⟩ := List.getElem?_eq_some_iff.mp here
  obtain ⟨before, _⟩ := (arena.rooted i t here).ofParent _ (eq_of_beq below)
  rw [arena.ids i t here] at before
  omega

theorem notedByOlder {steps : List Step} {s : Step} (fresh : Fresh steps s) :
    notedBy s ≠ some steps.length := by
  intro own
  obtain ⟨_, below⟩ := Option.ite_none_right_eq_some.mp own
  obtain ⟨before, _⟩ := fresh.root.ofParent _ below
  rw [fresh.id] at before
  omega

theorem growArena {steps : List Step} {states more : List ProofState} {s : Step}
    (arena : Arena steps states) (fresh : Fresh steps s)
    (count : more.length = if s.failure = none then 1 else 0)
    (reached : s.failure = none → ∃ state, Reaches (grownBy steps s) (states ++ more) s state) :
    Arena (grownBy steps s) (states ++ more) where
  ids := by
    intro i t found
    rcases (grownByGrows steps s).known i t found with ⟨rfl, rfl⟩ | ⟨old, children, here, rfl⟩
    · exact fresh.id
    · exact arena.ids i old here
  rooted := by
    intro i t found
    rcases (grownByGrows steps s).known i t found with ⟨rfl, rfl⟩ | ⟨old, children, here, rfl⟩
    · exact (grownByGrows steps t).rooted fresh.root t.children
    · exact (grownByGrows steps s).rooted (arena.rooted i old here) children
  reaches := by
    intro i t found success
    rcases (grownByGrows steps s).known i t found with ⟨rfl, rfl⟩ | ⟨old, children, here, rfl⟩
    · exact reached success
    · obtain ⟨state, before⟩ := arena.reaches i old here success
      exact ⟨state,(grownByGrows steps s).reaches (arena.rooted i old here) before children more⟩
  children := by
    intro i t found
    rw [childrenOfGrown]
    by_cases within : i < steps.length
    · rw [grownBy, List.getElem?_append_left (by rwa [notedLength]), notedStep] at found
      obtain ⟨old, here, rfl⟩ := Option.map_eq_some_iff.mp found
      rw [← arena.children i old here]
      by_cases own : notedBy s = some i <;> simp [own]
    · rcases (grownByGrows steps s).known i t found with ⟨rfl, rfl⟩ | ⟨old, children, here, rfl⟩
      · simp [fresh.children, childrenOfNext arena, notedByOlder fresh]
      · exact absurd (List.getElem?_eq_some_iff.mp here).1 within
  stateCount := by
    rw [grownBy, successesAppend, successesNoted, List.length_append, arena.stateCount, count]
    omega

end ProofTutor.History
