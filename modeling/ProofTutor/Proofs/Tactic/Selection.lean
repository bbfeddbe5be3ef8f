import ProofTutor.Proofs.Tactic.Structure

/-! The tree that the probes select, in one pass, and the rounds that find it. Every round keeps
the result of the pass and takes a choice away, unless a choice carries the reserved number. -/
namespace ProofTutor.Tactic

mutual

def numbers : Tactic → List (Option Nat)
  | .atomic _ _ => []
  | .sequence children _ => numbersOf children
  | .choice number? first rest _ => number? :: (numbers first ++ numbersOf rest)
  | .wrap _ child _ => numbers child

def numbersOf : List Tactic → List (Option Nat)
  | [] => []
  | t :: ts => numbers t ++ numbersOf ts

end

def takenAt (probes : List Probe) : Option Nat → Nat
  | some node => taken probes node
  | none => 0

mutual

def chosen (probes : List Probe) : Tactic → Tactic
  | .atomic text m => .atomic text m
  | .sequence children m => .sequence (chosenAll probes children) m
  | .choice number? first rest m =>
    pick (chosen probes first) (chosenAll probes rest) (takenAt probes number?) m
  | .wrap wrapper child m => .wrap wrapper (chosen probes child) m

def chosenAll (probes : List Probe) : List Tactic → List Tactic
  | [] => []
  | t :: ts => chosen probes t :: chosenAll probes ts

end

mutual

def met (probes : List Probe) : Tactic → List (Option Nat)
  | .atomic _ _ => []
  | .sequence children _ => (metEach probes children).flatten
  | .choice number? first rest _ =>
    let each := met probes first :: metEach probes rest
    number? :: each[takenAt probes number?]?.getD (met probes first)
  | .wrap _ child _ => met probes child

def metEach (probes : List Probe) : List Tactic → List (List (Option Nat))
  | [] => []
  | t :: ts => met probes t :: metEach probes ts

end

theorem numbersOfFlat (ts : List Tactic) : numbersOf ts = ts.flatMap numbers := by
  induction ts with
  | nil => rfl
  | cons t ts ih => simp [numbersOf, ih]

theorem numbersChoice (number? : Option Nat) (first : Tactic) (rest : List Tactic) (m : Messages) :
    (Tactic.choice number? first rest m).numbers = number? :: (first :: rest).flatMap numbers := by
  rw [numbers, numbersOfFlat, List.flatMap_cons]

theorem chosenAllMap (probes : List Probe) (ts : List Tactic) :
    chosenAll probes ts = ts.map (chosen probes) := by
  induction ts with
  | nil => rfl
  | cons t ts ih => simp [chosenAll, ih]

theorem inheritInherit (a b c : Messages) : (a.inherit b).inherit c = a.inherit (b.inherit c) := by
  simp [Messages.inherit, Option.or_assoc]

theorem inheritingInheriting (t : Tactic) (a b : Messages) :
    (t.inheriting a).inheriting b = t.inheriting (a.inherit b) := by
  cases t <;> simp [inheriting, withMessages, messages, inheritInherit]

theorem chosenInheriting (probes : List Probe) (t : Tactic) (m : Messages) :
    chosen probes (t.inheriting m) = (chosen probes t).inheriting m := by
  cases t with
  | atomic text own => rfl
  | sequence children own => rfl
  | choice number? first rest own =>
    simp only [inheriting, withMessages, messages, chosen, pick]
    exact (inheritingInheriting _ _ _).symm
  | wrap wrapper child own => rfl

theorem chosenPick (probes : List Probe) (first : Tactic) (rest : List Tactic) (index : Nat)
    (m : Messages) : chosen probes (pick first rest index m) =
      pick (chosen probes first) (chosenAll probes rest) index m := by
  have alternative : ((first :: rest).map (chosen probes))[index]?.getD (chosen probes first) =
      chosen probes ((first :: rest)[index]?.getD first) := by
    rw [List.getElem?_map]
    cases (first :: rest)[index]? <;> rfl
  rw [pick, pick, chosenInheriting, chosenAllMap, ← List.map_cons, alternative]

theorem chosenSelectWhere (probes : List Probe) (number? : Option Nat) (t : Tactic) :
    chosen probes (t.selectWhere number? (takenAt probes number?)) = chosen probes t := by
  induction t using treeInduction with
  | atomic text m => rfl
  | sequence children m ih =>
    have same := List.map_congr_left ih
    simp only [selectWhere, chosen, selectWhereAllMap, chosenAllMap, List.map_map,
      Function.comp_def, same]
  | choice own? first rest m ih =>
    obtain ⟨head, tail⟩ := List.forall_mem_cons.mp ih
    have same := List.map_congr_left tail
    simp only [selectWhere]
    split
    · rename_i here
      rw [chosenPick, chosen, here]
    · simp only [chosen, selectWhereAllMap, chosenAllMap, List.map_map, Function.comp_def, head,
        same]
  | wrap wrapper child m ih => simp only [selectWhere, chosen, ih]

theorem firstChoiceOfNone {ts : List Tactic} :
    firstChoiceOf? ts = none ↔ ∀ t ∈ ts, t.firstChoice? = none := by
  induction ts with
  | nil => simp [firstChoiceOf?]
  | cons t ts ih => simp [firstChoiceOf?, ih]

theorem firstChoiceOfSome {ts : List Tactic} {node : Nat} (found : firstChoiceOf? ts = some node) :
    ∃ t ∈ ts, t.firstChoice? = some node := by
  induction ts with
  | nil => simp [firstChoiceOf?] at found
  | cons t ts ih =>
    rcases Option.or_eq_some_iff.mp found with here | ⟨_, later⟩
    · exact ⟨t, List.mem_cons_self, here⟩
    · obtain ⟨u, mem, first⟩ := ih later
      exact ⟨u, List.mem_cons_of_mem _ mem, first⟩

theorem chosenWithoutChoice (probes : List Probe) {t : Tactic} (free : t.firstChoice? = none) :
    chosen probes t = t := by
  induction t using treeInduction with
  | atomic text m => rfl
  | sequence children m ih =>
    have same : ∀ t ∈ children, chosen probes t = id t := fun t mem =>
      ih t mem (firstChoiceOfNone.mp free t mem)
    rw [chosen, chosenAllMap, List.map_congr_left same, List.map_id]
  | choice number? first rest m ih => simp [firstChoice?] at free
  | wrap wrapper child m ih => rw [chosen, ih free]

theorem firstChoiceInheriting (t : Tactic) (m : Messages) :
    (t.inheriting m).firstChoice? = t.firstChoice? := by
  cases t <;> rfl

theorem pickMem (first : Tactic) (rest : List Tactic) (index : Nat) (m : Messages) :
    ∃ t ∈ first :: rest, pick first rest index m = t.inheriting m := by
  unfold pick
  cases found : (first :: rest)[index]? with
  | none => exact ⟨first, List.mem_cons_self, rfl⟩
  | some t => exact ⟨t, List.mem_of_getElem? found, rfl⟩

theorem chosenHasNoChoice (probes : List Probe) (t : Tactic) :
    (chosen probes t).firstChoice? = none := by
  induction t using treeInduction with
  | atomic text m => rfl
  | sequence children m ih =>
    rw [chosen, firstChoice?, chosenAllMap]
    exact firstChoiceOfNone.mpr (List.forall_mem_map.mpr ih)
  | choice number? first rest m ih =>
    obtain ⟨u, mem, picked⟩ :=
      pickMem (chosen probes first) (chosenAll probes rest) (takenAt probes number?) m
    rw [chosen, picked, firstChoiceInheriting]
    rw [chosenAllMap, ← List.map_cons] at mem
    obtain ⟨t, inside, rfl⟩ := List.mem_map.mp mem
    exact ih t inside
  | wrap wrapper child m ih => exact ih

theorem choiceCountInheriting (t : Tactic) (m : Messages) :
    (t.inheriting m).choiceCount = t.choiceCount := by
  cases t <;> rfl

theorem choiceCountPick (first : Tactic) (rest : List Tactic) (index : Nat) (m : Messages) :
    (pick first rest index m).choiceCount ≤ first.choiceCount + choiceCountOf rest := by
  obtain ⟨t, mem, picked⟩ := pickMem first rest index m
  rw [picked, choiceCountInheriting, choiceCountOfSum]
  rcases List.mem_cons.mp mem with rfl | later
  · exact Nat.le_add_right _ _
  · exact Nat.le_add_left_of_le
      (List.single_le_sum (fun _ _ => Nat.zero_le _) _ (List.mem_map_of_mem later))

theorem choiceCountSelectWhere (number? : Option Nat) (index : Nat) (t : Tactic) :
    (t.selectWhere number? index).choiceCount ≤ t.choiceCount := by
  induction t using treeInduction with
  | atomic text m => exact Nat.le_refl _
  | sequence children m ih =>
    simp only [selectWhere, choiceCount, selectWhereAllMap, choiceCountOfSum, List.map_map]
    exact List.sum_le_sum ih
  | choice own? first rest m ih =>
    obtain ⟨head, tail⟩ := List.forall_mem_cons.mp ih
    simp only [selectWhere]
    split
    · exact Nat.le_succ_of_le (choiceCountPick first rest index m)
    · simp only [choiceCount, selectWhereAllMap, choiceCountOfSum, List.map_map]
      have later := List.sum_le_sum tail
      exact Nat.succ_le_succ (Nat.add_le_add head later)
  | wrap wrapper child m ih => exact ih

theorem choiceCountSelected {number? : Option Nat} {t : Tactic} (index : Nat)
    (found : number? ∈ t.numbers) : (t.selectWhere number? index).choiceCount < t.choiceCount := by
  induction t using treeInduction with
  | atomic text m => simp [numbers] at found
  | sequence children m ih =>
    simp only [selectWhere, choiceCount, selectWhereAllMap, choiceCountOfSum, List.map_map]
    rw [numbers, numbersOfFlat] at found
    obtain ⟨t, mem, inside⟩ := List.mem_flatMap.mp found
    exact List.sum_lt_sum _ _ (fun u _ => choiceCountSelectWhere number? index u)
      ⟨t, mem, ih t mem inside⟩
  | choice own? first rest m ih =>
    simp only [selectWhere]
    split
    · exact Nat.lt_succ_of_le (choiceCountPick first rest index m)
    · rename_i other
      simp only [choiceCount, selectWhereAllMap, choiceCountOfSum, List.map_map]
      rw [numbersChoice] at found
      have inside := (List.mem_cons.mp found).resolve_left (Ne.symm other)
      obtain ⟨t, mem, here⟩ := List.mem_flatMap.mp inside
      have fewer := List.sum_lt_sum (l := first :: rest) _ _
        (fun u _ => choiceCountSelectWhere number? index u) ⟨t, mem, ih t mem here⟩
      rw [List.map_cons, List.map_cons, List.sum_cons, List.sum_cons] at fewer
      exact Nat.succ_lt_succ fewer
  | wrap wrapper child m ih => exact ih found

/-! ### The choices that are met -/

theorem metEachMap (probes : List Probe) (ts : List Tactic) :
    metEach probes ts = ts.map (met probes) := by
  induction ts with
  | nil => rfl
  | cons t ts ih => simp [metEach, ih]

theorem metSequence (probes : List Probe) (children : List Tactic) (m : Messages) :
    met probes (.sequence children m) = children.flatMap (met probes) := by
  rw [met, metEachMap, List.flatMap]

theorem metInheriting (probes : List Probe) (t : Tactic) (m : Messages) :
    met probes (t.inheriting m) = met probes t := by
  cases t <;> rfl

theorem pickMapped (f : Tactic → Tactic) (first : Tactic) (rest : List Tactic) (index : Nat)
    (m : Messages) : ∃ t ∈ first :: rest, pick first rest index m = t.inheriting m ∧
      pick (f first) (rest.map f) index m = (f t).inheriting m := by
  unfold pick
  rw [← List.map_cons, List.getElem?_map]
  cases found : (first :: rest)[index]? with
  | none => exact ⟨first, List.mem_cons_self, rfl, rfl⟩
  | some t => exact ⟨t, List.mem_of_getElem? found, rfl, rfl⟩

theorem metChoice (probes : List Probe) (number? : Option Nat) (first : Tactic) (rest : List Tactic)
    (m : Messages) : met probes (.choice number? first rest m) =
      number? :: met probes (pick first rest (takenAt probes number?) m) := by
  rw [pick, metInheriting, met, metEachMap, ← List.map_cons, List.getElem?_map]
  cases (first :: rest)[takenAt probes number?]? <;> rfl

theorem metNumbers {probes : List Probe} {number? : Option Nat} {t : Tactic}
    (inside : number? ∈ t.met probes) : number? ∈ t.numbers := by
  induction t using treeInduction with
  | atomic text m => exact inside
  | sequence children m ih =>
    rw [metSequence] at inside
    obtain ⟨t, mem, here⟩ := List.mem_flatMap.mp inside
    rw [numbers, numbersOfFlat]
    exact List.mem_flatMap.mpr ⟨t, mem, ih t mem here⟩
  | choice own? first rest m ih =>
    obtain ⟨t, mem, picked⟩ := pickMem first rest (takenAt probes own?) m
    rw [metChoice, picked, metInheriting] at inside
    rw [numbersChoice]
    rcases List.mem_cons.mp inside with same | further
    · exact List.mem_cons.mpr (.inl same)
    · exact List.mem_cons_of_mem _ (List.mem_flatMap.mpr ⟨t, mem, ih t mem further⟩)
  | wrap wrapper child m ih => exact ih inside

theorem metSelectWhere {probes : List Probe} {number? other? : Option Nat} (differ : other? ≠ number?)
    (t : Tactic) : other? ∈ (t.selectWhere number? (takenAt probes number?)).met probes ↔
      other? ∈ t.met probes := by
  induction t using treeInduction with
  | atomic text m => rfl
  | sequence children m ih =>
    simp only [selectWhere, selectWhereAllMap, metSequence, List.mem_flatMap, List.mem_map,
      exists_exists_and_eq_and]
    exact exists_congr fun t => and_congr_right fun mem => ih t mem
  | choice own? first rest m ih =>
    simp only [selectWhere]
    split
    · rename_i here
      rw [metChoice, here, List.mem_cons]
      exact (or_iff_right differ).symm
    · obtain ⟨t, mem, picked, selected⟩ :=
        pickMapped (selectWhere number? (takenAt probes number?)) first rest (takenAt probes own?) m
      rw [metChoice, metChoice, selectWhereAllMap, picked, selected, metInheriting, metInheriting,
        List.mem_cons, List.mem_cons, ih t mem]
  | wrap wrapper child m ih => exact ih

theorem firstMet (probes : List Probe) {t : Tactic} {node : Nat} (first : t.firstChoice? = some node) :
    some node ∈ t.met probes ∨ node = reserved ∧ none ∈ t.met probes := by
  induction t using treeInduction with
  | atomic text m => simp [firstChoice?] at first
  | sequence children m ih =>
    obtain ⟨t, mem, here⟩ := firstChoiceOfSome first
    rw [metSequence]
    exact (ih t mem here).imp (fun inside => List.mem_flatMap.mpr ⟨t, mem, inside⟩)
      (And.imp_right fun inside => List.mem_flatMap.mpr ⟨t, mem, inside⟩)
  | choice number? head rest m ih =>
    rw [metChoice]
    cases number? with
    | none =>
      cases Option.some.inj first
      exact .inr ⟨rfl, List.mem_cons_self⟩
    | some own =>
      cases Option.some.inj first
      exact .inl List.mem_cons_self
  | wrap wrapper child m ih => exact ih first

theorem metWithoutChoice (probes : List Probe) {t : Tactic} (free : t.firstChoice? = none) :
    t.met probes = [] := by
  induction t using treeInduction with
  | atomic text m => rfl
  | sequence children m ih =>
    rw [metSequence, List.flatMap_eq_nil_iff]
    exact fun t mem => ih t mem (firstChoiceOfNone.mp free t mem)
  | choice number? first rest m ih => simp [firstChoice?] at free
  | wrap wrapper child m ih => exact ih free

/-! ### The rounds -/

theorem roundSelects (probes : List Probe) {t : Tactic} {node : Nat}
    (first : t.firstChoice? = some node) : ∃ number?, some reserved ≠ number? ∧
      (some reserved ∉ t.met probes → number? ∈ t.met probes) ∧
      (if node = reserved then t.selectUnnumbered else t.select node (taken probes node)) =
        t.selectWhere number? (takenAt probes number?) := by
  have found := firstMet probes first
  by_cases same : node = reserved
  · rw [if_pos same]
    subst same
    exact ⟨none, nofun, fun unmet => (found.resolve_left unmet).2, rfl⟩
  · rw [if_neg same]
    exact ⟨some node, fun equal => same (Option.some.inj equal).symm,
      fun _ => found.resolve_right fun unnumbered => same unnumbered.1, rfl⟩

theorem resolveWithinChosen (probes : List Probe) {t : Tactic} {rounds : Nat}
    (unmet : some reserved ∉ t.met probes) (enough : t.choiceCount ≤ rounds) :
    resolveWithin? probes rounds t = some (chosen probes t) := by
  induction rounds generalizing t with
  | zero =>
    rw [resolveWithin?]
    split
    · rename_i free
      rw [chosenWithoutChoice probes free]
    · rename_i node first
      obtain ⟨number?, _, mem, _⟩ := roundSelects probes first
      have := choiceCountSelected 0 (metNumbers (mem unmet))
      omega
  | succ rounds ih =>
    rw [resolveWithin?]
    split
    · rename_i free
      rw [chosenWithoutChoice probes free]
    · rename_i node first
      obtain ⟨number?, differ, mem, round⟩ := roundSelects probes first
      have fewer := choiceCountSelected (takenAt probes number?) (metNumbers (mem unmet))
      simp only [round]
      rw [ih (fun inside => unmet ((metSelectWhere differ t).mp inside)) (by omega),
        chosenSelectWhere]

theorem resolveChosen (probes : List Probe) {t : Tactic} (unreserved : some reserved ∉ t.numbers) :
    t.resolve? probes = some (chosen probes t) :=
  resolveWithinChosen probes (fun inside => unreserved (metNumbers inside)) (Nat.le_refl _)

end ProofTutor.Tactic
