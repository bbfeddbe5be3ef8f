import ProofTutor.Proofs.History.WellFormed

/-!
The two ways to keep a step: a failed one stays outside the line, a successful one becomes its end.
Either way the history stays well formed.
-/
namespace ProofTutor.History

/-! ### Paths -/

theorem Grows.path {steps grown : List Step} {s : Step} (grows : Grows steps grown s)
    {states : List ProofState} {line : List Nat} (path : Path steps states line)
    (more : List ProofState) : Path grown (states ++ more) line where
  increasing := path.increasing
  kept := by
    intro id mem
    obtain ⟨t, after, here, success, same, within⟩ := path.kept id mem
    obtain ⟨children, still⟩ := grows.old id t here
    exact ⟨_,after,still,success,same,by rw [List.length_append]; omega⟩
  parents := by
    intro place id t atPlace found
    obtain ⟨old, _, here, _⟩ := path.kept id (List.mem_of_getElem? atPlace)
    obtain ⟨children, still⟩ := grows.old id old here
    cases found.symm.trans still
    exact path.parents place id old atPlace here

theorem takePath {steps : List Step} {states : List ProofState} {line : List Nat}
    (path : Path steps states line) (n : Nat) : Path steps states (line.take n) where
  increasing := path.increasing.sublist (List.take_sublist n line)
  kept := fun id mem => path.kept id (List.mem_of_mem_take mem)
  parents := by
    intro place id s atPlace here
    rw [List.getElem?_take] at atPlace
    obtain ⟨within, atPlace⟩ := Option.ite_none_right_eq_some.mp atPlace
    rw [path.parents place id s atPlace here, List.take_take, Nat.min_eq_left (Nat.le_of_lt within)]

theorem appendPath {steps : List Step} {states : List ProofState} {line : List Nat} {s : Step}
    {after : Nat} (path : Path steps states line) (older : ∀ id ∈ line, id < s.id)
    (here : steps[s.id]? = some s) (success : s.failure = none) (reached : s.after = some after)
    (within : after < states.length) (below : s.parent = line.getLast?) :
    Path steps states (line ++ [s.id]) where
  increasing := List.pairwise_append.mpr ⟨path.increasing,List.pairwise_singleton ..,by simpa using older⟩
  kept := by
    intro id mem
    rcases List.mem_append.mp mem with old | new
    · exact path.kept id old
    · obtain rfl := List.mem_singleton.mp new
      exact ⟨s,after,here,success,reached,within⟩
  parents := by
    intro place id t atPlace found
    by_cases inside : place < line.length
    · rw [List.getElem?_append_left inside] at atPlace
      rw [path.parents place id t atPlace found, List.take_append_of_le_length (Nat.le_of_lt inside)]
    · rw [List.getElem?_append_right (by omega), List.getElem?_singleton] at atPlace
      obtain ⟨last, same⟩ := Option.ite_none_right_eq_some.mp atPlace
      cases same
      cases found.symm.trans here
      have last : place = line.length := by omega
      rw [below, last, List.take_left]

/-! ### The current step -/

section Current
variable {h : History} (wf : h.WellFormed)
include wf

theorem currentStep {s : Step} (found : h.current? = some s) :
    h.steps[s.id]? = some s ∧ s.failure = none ∧ h.past.getLast? = some s.id := by
  rw [current?] at found
  split at found
  · cases found
  · rename_i n atCursor
    obtain ⟨id, onLine, here⟩ := Option.bind_eq_some_iff.mp found
    obtain ⟨_, _, same, success, _⟩ := wf.path.kept id (List.mem_of_getElem? onLine)
    cases here.symm.trans same
    rw [wf.arena.ids id s here]
    refine ⟨here,success,?_⟩
    rw [past, atCursor, List.getLast?_take]
    simp [onLine]

theorem pastLast : h.past.getLast? = h.current?.map (·.id) := by
  cases found : h.current? with
  | some s => exact (currentStep wf found).2.2
  | none =>
    rw [current?] at found
    split at found
    · rename_i atStart
      simp [past, atStart]
    · rename_i n atCursor
      have within := wf.cursor
      obtain ⟨s, _, here, _⟩ := wf.path.kept _ (List.getElem_mem (by omega : n < h.line.length))
      rw [List.getElem?_eq_getElem (by omega), Option.bind_some, step?, here] at found
      cases found

theorem currentReaches {s : Step} (found : h.current? = some s) :
    Reaches h.steps h.states s h.currentState := by
  obtain ⟨here, success, _⟩ := currentStep wf found
  obtain ⟨state, reached⟩ := wf.arena.reaches _ s here success
  obtain ⟨after, same, atAfter⟩ := reached.after
  have current : h.currentState = state := by
    simp [currentState, currentStateId, found, same, atAfter]
  rwa [current]

theorem currentStart (start : h.current? = none) :
    h.currentStateId = 0 ∧ h.currentState = h.initialState := by
  have id : h.currentStateId = 0 := by simp [currentStateId, start]
  refine ⟨id,?_⟩
  have count := wf.arena.stateCount
  rw [currentState, id, initialState, List.head?_eq_getElem?]
  rw [List.getElem?_eq_getElem (by omega)]
  rfl

theorem filedFresh {s : Step} (before : s.before = h.currentStateId)
    (goesOn : h.currentState.goalCount ≠ 0) (children : s.children = []) :
    Fresh h.steps (h.filed s) where
  id := rfl
  children := children
  root := by
    cases found : h.current? with
    | none =>
      refine ⟨?_,fun _ => before.trans (currentStart wf found).1⟩
      intro parent below
      simp [filed, found] at below
    | some current =>
      obtain ⟨here, success, _⟩ := currentStep wf found
      have reached := currentReaches wf found
      obtain ⟨after, same, _⟩ := reached.after
      refine ⟨?_,?_⟩
      · intro parent below
        have own : current.id = parent := by simpa [filed, found] using below
        rw [← own]
        refine ⟨(List.getElem?_eq_some_iff.mp here).1,current,here,success,?_,?_⟩
        · show current.after = some s.before
          rw [before, currentStateId, found, Option.bind_some, same, Option.getD_some]
        · exact Bool.eq_false_iff.mpr fun complete => goesOn (reached.completesProof.mp complete)
      · intro alone
        simp [filed, found] at alone

theorem taggedEntries {s : Step} {grown : List Step} (grows : Grows h.steps grown (h.filed s))
    {new : ProofState} {goal index : Nat} {e : Entry}
    (found : (new.tagAgainst h.currentState (some h.nextId)).entryAt? goal index = some e) :
    e.position = ⟨some h.nextId,goal,index⟩ ∧
      ∀ step, e.origin = some step → Descends grown h.nextId step := by
  obtain ⟨position, origin⟩ := ProofState.tagAgainstEntry found
  refine ⟨position,?_⟩
  intro step same
  rcases origin with own | ⟨goal, index, before, here, inherited⟩
  · cases own.symm.trans same
    exact .self _
  · rw [inherited] at same
    cases at? : h.current? with
    | none =>
      rw [(currentStart wf at?).2] at here
      cases (wf.initialEntries goal index before here).2.symm.trans same
    | some current =>
      have older := ((currentReaches wf at?).entries goal index before here).2 step same
      exact .parent grows.own (by simp [filed, at?]) (grows.descends older)

end Current

/-! ### Recording -/

theorem failureSteps (h : History) {s : Step} (failed : s.failure ≠ none) :
    (h.recordFailure s).steps = grownBy h.steps (h.filed s) := by
  have unnoted : notedBy (h.filed s) = none := if_neg failed
  rw [grownBy, unnoted]
  rfl

theorem successSteps (h : History) {s : Step} (success : s.failure = none) :
    (h.recordSuccess s).steps = grownBy h.steps (h.filed s) := by
  have noted : notedBy (h.filed s) = (h.filed s).parent := if_pos success
  rw [grownBy, noted]
  rfl

theorem failureWellFormed {h : History} (wf : h.WellFormed) {s : Step}
    (fresh : Fresh h.steps (h.filed s)) (failed : s.failure ≠ none) :
    (h.recordFailure s).WellFormed where
  arena := by
    have arena : Arena (grownBy h.steps (h.filed s)) (h.states ++ []) :=
      growArena wf.arena fresh (by simp [filed, failed]) fun success => absurd success failed
    rw [failureSteps h failed]
    rwa [List.append_nil] at arena
  path := by
    have path := (grownByGrows h.steps (h.filed s)).path wf.path []
    rw [failureSteps h failed]
    rwa [List.append_nil] at path
  cursor := wf.cursor
  initialStack := wf.initialStack
  initialEntries := wf.initialEntries

theorem initialStatePush {h : History} (wf : h.WellFormed) (state : ProofState) :
    (h.pushState state).initialState = h.initialState := by
  have count := wf.arena.stateCount
  obtain ⟨first, rest, same⟩ := List.exists_cons_of_length_pos (by omega : 0 < h.states.length)
  simp [initialState, pushState, same]

theorem successWellFormed {h : History} (wf : h.WellFormed) {s : Step} {state : ProofState}
    (fresh : Fresh h.steps (h.filed s)) (success : s.failure = none)
    (reached : Reaches (grownBy h.steps (h.filed s)) (h.states ++ [state]) (h.filed s) state) :
    ((h.pushState state).recordSuccess s).WellFormed where
  arena := by
    have arena : Arena (grownBy h.steps (h.filed s)) (h.states ++ [state]) :=
      growArena wf.arena fresh (by simp [filed, success]) fun _ => ⟨state,reached⟩
    rw [successSteps (h.pushState state) success]
    exact arena
  path := by
    have grows := grownByGrows h.steps (h.filed s)
    have older : ∀ id ∈ h.past, id < (h.filed s).id := by
      intro id mem
      obtain ⟨_, _, here, _⟩ := (takePath wf.path h.cursor).kept id mem
      exact (List.getElem?_eq_some_iff.mp here).1
    obtain ⟨after, same, here⟩ := reached.after
    rw [successSteps (h.pushState state) success]
    exact appendPath (grows.path (takePath wf.path h.cursor) [state]) older grows.own success same
      (List.getElem?_eq_some_iff.mp here).1 (pastLast wf).symm
  cursor := by simp [recordSuccess]
  initialStack := by
    show h.initialStack.length = (h.pushState state).initialState.goalCount
    rw [initialStatePush wf, wf.initialStack]
  initialEntries := by
    show ∀ goal index e, (h.pushState state).initialState.entryAt? goal index = some e → _
    rw [initialStatePush wf]
    exact wf.initialEntries

end ProofTutor.History
