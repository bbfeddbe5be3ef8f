import ProofTutor.Proofs.Tactic.Numbering
import ProofTutor.Proofs.Tactic.Structure

/-!
The rounds that select one alternative after the other end in what a single pass from the root
makes of the tree: it takes the alternative that fired in the place of each choice, hands the messages
of the choice down to it and goes on inside. A choice that carries the reserved number is taken for one
without a number, and if the selection comes to it the rounds do not end.
-/

namespace ProofTutor.Tactic

def lastReport? (probes : List Probe) (node : Nat) : Option Nat :=
  (probes.filter (·.1 == node)).getLast?.map Prod.snd

def firedPlace (probes : List Probe) (number? : Option Nat) (count : Nat) : Nat :=
  match number?.bind (lastReport? probes) with
  | some place => if place < count then place else 0
  | none => 0

mutual

def resolved (probes : List Probe) (outer : Messages) : Tactic → Tactic
  | .atomic text m => .atomic text (m.inherit outer)
  | .sequence children m => .sequence (resolvedAll probes children) (m.inherit outer)
  | .choice number? first rest m =>
    match firedPlace probes number? (rest.length + 1) with
    | 0 => resolved probes (m.inherit outer) first
    | place + 1 => resolvedAt probes (m.inherit outer) place rest
  | .wrap wrapper child m => .wrap wrapper (resolved probes {} child) (m.inherit outer)

def resolvedAll (probes : List Probe) : List Tactic → List Tactic
  | [] => []
  | t :: ts => resolved probes {} t :: resolvedAll probes ts

def resolvedAt (probes : List Probe) (outer : Messages) : (place : Nat) → List Tactic → Tactic
  | _, [] => .sequence []
  | 0, t :: _ => resolved probes outer t
  | place + 1, _ :: ts => resolvedAt probes outer place ts

end

/-! ### The pass and the rounds -/

theorem takenLast (probes : List Probe) (number? : Option Nat) :
    takenAt probes number? = (number?.bind (lastReport? probes)).getD 0 := by
  cases number? with
  | none => rfl
  | some node =>
    rw [takenAt, taken, Option.bind_some, lastReport?, List.getLast?_filter]

theorem firedPlaceBound (probes : List Probe) (number? : Option Nat) (count : Nat) :
    firedPlace probes number? (count + 1) < count + 1 := by
  rw [firedPlace]
  split
  · split
    · assumption
    · exact Nat.succ_pos count
  · exact Nat.succ_pos count

theorem pickFired (probes : List Probe) (number? : Option Nat) (first : Tactic) (rest : List Tactic)
    (m : Messages) : ∃ t ∈ first :: rest,
      (first :: rest)[firedPlace probes number? (rest.length + 1)]? = some t ∧
        pick first rest (takenAt probes number?) m = t.inheriting m := by
  have bound := firedPlaceBound probes number? rest.length
  have found := List.getElem?_eq_getElem (l := first :: rest) bound
  refine ⟨_,List.mem_of_getElem? found,found,?_⟩
  have same : (first :: rest)[takenAt probes number?]?.getD first =
      (first :: rest)[firedPlace probes number? (rest.length + 1)]?.getD first := by
    rw [takenLast, firedPlace]
    cases number?.bind (lastReport? probes) with
    | none => rfl
    | some place =>
      by_cases inside : place < rest.length + 1 <;> simp [inside]
  rw [pick, same, found, Option.getD_some]

theorem resolvedAllMap (probes : List Probe) (ts : List Tactic) :
    resolvedAll probes ts = ts.map (resolved probes {}) := by
  induction ts with
  | nil => rfl
  | cons t ts ih => simp [resolvedAll, ih]

theorem resolvedAtPlace (probes : List Probe) (outer : Messages) {place : Nat} {ts : List Tactic}
    {t : Tactic} (found : ts[place]? = some t) :
    resolvedAt probes outer place ts = resolved probes outer t := by
  induction ts generalizing place with
  | nil => simp at found
  | cons u us ih =>
    cases place with
    | zero =>
      cases Option.some.inj found
      rfl
    | succ place => exact ih found

theorem resolvedChoice (probes : List Probe) (outer : Messages) (number? : Option Nat)
    (first : Tactic) (rest : List Tactic) (m : Messages) :
    resolved probes outer (.choice number? first rest m) = resolvedAt probes (m.inherit outer)
      (firedPlace probes number? (rest.length + 1)) (first :: rest) := by
  rw [resolved]
  cases firedPlace probes number? (rest.length + 1) <;> rfl

theorem inheritingNone (t : Tactic) : t.inheriting {} = t := by
  cases t <;> simp [inheriting, withMessages, messages, Messages.inherit]

theorem resolvedChosen (probes : List Probe) (outer : Messages) (t : Tactic) :
    resolved probes outer t = (chosen probes t).inheriting outer := by
  induction t using treeInduction generalizing outer with
  | atomic text m => rfl
  | sequence children m ih =>
    have same : ∀ t ∈ children, resolved probes {} t = chosen probes t := fun t mem => by
      rw [ih t mem, inheritingNone]
    rw [resolved, resolvedAllMap, List.map_congr_left same, chosen, chosenAllMap]
    rfl
  | choice number? first rest m ih =>
    obtain ⟨t, mem, found, picked⟩ := pickFired probes number? first rest m
    rw [resolvedChoice, resolvedAtPlace probes _ found, ih t mem, chosen, ← chosenPick, picked,
      chosenInheriting, inheritingInheriting]
  | wrap wrapper child m ih =>
    rw [resolved, ih, inheritingNone]
    rfl

/-! ### What is left of the tree -/

theorem anyHasChoiceFirst {ts : List Tactic}
    (each : ∀ t ∈ ts, t.hasChoice = t.firstChoice?.isSome) :
    anyHasChoice ts = (firstChoiceOf? ts).isSome := by
  induction ts with
  | nil => rfl
  | cons t ts ih =>
    obtain ⟨head, tail⟩ := List.forall_mem_cons.mp each
    rw [anyHasChoice, firstChoiceOf?, head, ih tail, Option.isSome_or]

theorem hasChoiceFirst (t : Tactic) : t.hasChoice = t.firstChoice?.isSome := by
  induction t using treeInduction with
  | atomic text m => rfl
  | sequence children m ih => exact anyHasChoiceFirst ih
  | choice number? first rest m ih => rfl
  | wrap wrapper child m ih => exact ih

theorem atomsInheriting (t : Tactic) (m : Messages) : (t.inheriting m).atoms = t.atoms := by
  cases t <;> rfl

theorem flatMapSublist {f : Tactic → List String} {g : Tactic → Tactic} {ts : List Tactic}
    (each : ∀ t ∈ ts, (f (g t)).Sublist (f t)) : ((ts.map g).flatMap f).Sublist (ts.flatMap f) := by
  induction ts with
  | nil => exact List.Sublist.refl []
  | cons t ts ih =>
    obtain ⟨head, tail⟩ := List.forall_mem_cons.mp each
    exact head.append (ih tail)

theorem chosenAtoms (probes : List Probe) (t : Tactic) :
    (chosen probes t).atoms.Sublist t.atoms := by
  induction t using treeInduction with
  | atomic text m => exact List.Sublist.refl _
  | sequence children m ih =>
    rw [chosen, atoms, atoms, chosenAllMap, atomsOfFlat, atomsOfFlat]
    exact flatMapSublist ih
  | choice number? first rest m ih =>
    obtain ⟨u, mem, picked⟩ :=
      pickMem (chosen probes first) (chosenAll probes rest) (takenAt probes number?) m
    rw [chosenAllMap, ← List.map_cons] at mem
    have among : u.atoms.Sublist (((first :: rest).map (chosen probes)).flatMap atoms) :=
      List.sublist_flatten_of_mem (List.mem_map_of_mem mem)
    rw [chosen, picked, atomsInheriting, atoms, atomsOfFlat, ← List.flatMap_cons]
    exact among.trans (flatMapSublist ih)
  | wrap wrapper child m ih => exact ih

/-- From any reports on a numbered tree the rounds come to an end, with the tree that one pass makes:
no choice is left in it, and its atomic tactics stand in their old order. -/
theorem resolutionSelects (t : Tactic) (few : t.choiceCount ≤ reserved) (probes : List Probe) :
    t.instrument.1.resolve? probes = some (resolved probes {} t.instrument.1) ∧
      (resolved probes {} t.instrument.1).hasChoice = false ∧
      (resolved probes {} t.instrument.1).atoms.Sublist t.instrument.1.atoms := by
  have pass : resolved probes {} t.instrument.1 = chosen probes t.instrument.1 := by
    rw [resolvedChosen, inheritingNone]
  rw [pass]
  refine ⟨resolveChosen probes (numberedUnreserved few),?_,chosenAtoms probes _⟩
  rw [hasChoiceFirst, chosenHasNoChoice]
  rfl

def nestedChoices : Tactic :=
  .choice none (.atomic "refl") [.sequence
    [.choice (some 9) (.atomic "rw h" ⟨some "rewritten", none⟩)
        [.choice none (.atomic "apply h") [.atomic "exact h"] ⟨some "applied", none⟩]
        ⟨none, some "no rewriting"⟩,
      .wrap .attempt (.choice none (.atomic "left") [.atomic "right"])]] ⟨some "done", none⟩

theorem resolutionSelectsNested :
    nestedChoices.choiceCount ≤ reserved ∧
      nestedChoices.instrument.1.resolve? [(3, 7), (1, 0), (5, 1), (2, 1), (0, 1), (1, 1)] =
        some (.sequence [.atomic "exact h" ⟨some "applied", some "no rewriting"⟩,
          .wrap .attempt (.atomic "left")] ⟨some "done", none⟩) := by
  have few : nestedChoices.choiceCount ≤ reserved := by decide
  exact ⟨few,(resolutionSelects nestedChoices few _).1⟩

/-! ### The end of the rounds -/

theorem roundsChosen {probes : List Probe} {t u : Tactic} {rounds : Nat}
    (ended : resolveWithin? probes rounds t = some u) : u = chosen probes t := by
  induction rounds generalizing t with
  | zero =>
    rw [resolveWithin?] at ended
    split at ended
    · rename_i free
      cases ended
      exact (chosenWithoutChoice probes free).symm
    · cases ended
  | succ rounds ih =>
    rw [resolveWithin?] at ended
    split at ended
    · rename_i free
      cases ended
      exact (chosenWithoutChoice probes free).symm
    · rename_i node first
      obtain ⟨number?, _, _, round⟩ := roundSelects probes first
      simp only [round] at ended
      rw [ih ended, chosenSelectWhere]

theorem choiceOfMet {probes : List Probe} {t : Tactic} {number? : Option Nat}
    (inside : number? ∈ t.met probes) : ∃ node, t.firstChoice? = some node := by
  refine Option.ne_none_iff_exists'.mp fun free => ?_
  rw [metWithoutChoice probes free] at inside
  cases inside

theorem roundsEndless {probes : List Probe} {t : Tactic} (inside : some reserved ∈ t.met probes)
    (rounds : Nat) : resolveWithin? probes rounds t = none := by
  obtain ⟨node, first⟩ := choiceOfMet inside
  induction rounds generalizing t node with
  | zero => rw [resolveWithin?, first]
  | succ rounds ih =>
    -- The round is about another number, so the reserved choice is met as before.
    obtain ⟨number?, differ, _, round⟩ := roundSelects probes first
    have still := (metSelectWhere differ t).mpr inside
    obtain ⟨node', first'⟩ := choiceOfMet still
    rw [resolveWithin?, first]
    simp only [round]
    exact ih still node' first'

/-- For any tree, with or without numbers on its choices, and any reports the rounds come to an end
just when the selection comes to no choice with the reserved number. The end is always the same one
and has no choice. -/
theorem selectionEnds (probes : List Probe) (t : Tactic) :
    ((∃ rounds u, resolveWithin? probes rounds t = some u) ↔ some reserved ∉ t.met probes) ∧
      (some reserved ∉ t.numbers → some reserved ∉ t.met probes) ∧
      (∀ rounds u, resolveWithin? probes rounds t = some u →
        t.resolve? probes = some u ∧ u.hasChoice = false) := by
  refine ⟨⟨?_,?_⟩,fun unreserved inside => unreserved (metNumbers inside),?_⟩
  · intro ended inside
    obtain ⟨rounds, u, ended⟩ := ended
    rw [roundsEndless inside] at ended
    cases ended
  · exact fun unmet => ⟨t.choiceCount,_,resolveWithinChosen probes unmet (Nat.le_refl _)⟩
  · intro rounds u ended
    have unmet : some reserved ∉ t.met probes := fun inside => by
      rw [roundsEndless inside] at ended
      cases ended
    obtain rfl := roundsChosen ended
    refine ⟨resolveWithinChosen probes unmet (Nat.le_refl _),?_⟩
    rw [hasChoiceFirst, chosenHasNoChoice]
    rfl

def reservedChoice : Tactic :=
  .choice (some reserved) (.atomic "refl") []

example : resolve? [] (.choice none (.atomic "refl") [reservedChoice]) = some (.atomic "refl") := rfl

/-- The smallest choice with the reserved number is never selected. -/
theorem reservedNeverSelected : ¬ ∃ rounds u, resolveWithin? [] rounds reservedChoice = some u := by
  intro ended
  obtain ⟨rounds, u, ended⟩ := ended
  rw [roundsEndless (by decide)] at ended
  cases ended

end ProofTutor.Tactic
