import ProofTutor.Proofs.Tactic.Execution

/-! The code that is recorded for a step does what the instrumented code did. Each choice of a
numbered tree runs at most once and reports at most once, so that the reports of one subtree are
not disturbed by those around it, even where an alternative was abandoned. -/
namespace ProofTutor.Tactic
variable {σ : Type} {e : Engine σ}

theorem runProbed (law : e.Lawful) {t : Tactic} {node index : Nat} {s s' : σ} {printed}
    (ran : (probed (some node) index t).run e s = ⟨printed,some s'⟩) :
    ∃ inner, t.run e s = ⟨inner,some s'⟩ ∧ printed = inner ++ [(node,index)] := by
  simp only [probed, run, runAll] at ran
  obtain ⟨inner, middle, last, here, after, rfl⟩ := Ran.andThenSome.mp ran
  obtain ⟨report, finish, nothing, probe, done, rfl⟩ := Ran.andThenSome.mp after
  rw [Vocabulary.probeOfProbe, law.probe] at probe
  cases probe
  cases done
  exact ⟨inner,here,rfl⟩

theorem runProbedFailed (law : e.Lawful) {t : Tactic} {node index : Nat} {s : σ} {printed}
    (ran : (probed (some node) index t).run e s = ⟨printed,none⟩) : t.run e s = ⟨printed,none⟩ := by
  simp only [probed, run, runAll] at ran
  generalize t.run e s = inner at ran ⊢
  obtain ⟨before, state?⟩ := inner
  cases state? with
  | none => exact ran
  | some middle => simp [Ran.andThen, law.probe] at ran

theorem runProbedPrints {number? : Option Nat} {index : Nat} {t : Tactic} {P : Probe → Prop}
    (own : ∀ node, number? = some node → P (node,index))
    (each : ∀ s, ∀ p ∈ (t.run e s).printed, P p) (s : σ) :
    ∀ p ∈ ((probed number? index t).run e s).printed, P p := by
  cases number? with
  | none => exact each s
  | some node =>
    refine runAllPrints [t,.atomic (Vocabulary.probe node index)]
      (List.forall_mem_cons.mpr ⟨each,List.forall_mem_cons.mpr ⟨?_,by simp⟩⟩) s
    intro s p mem
    simp only [run, Vocabulary.probeOfProbe, Option.toList_some, List.mem_singleton] at mem
    exact mem ▸ own node rfl

theorem printedOwn (law : e.Lawful) {t : Tactic} (linear : t.Linear) (s : σ) :
    ∀ p ∈ (t.withProbes.run e s).printed, some p.1 ∈ t.numbers := by
  induction t using treeInduction generalizing s with
  | atomic text m =>
    have silent := linear.unprobed text List.mem_cons_self
    simp [withProbes, run, silent]
  | sequence children m ih =>
    simp only [withProbes, withProbesAllMap, run, numbers, numbersOfFlat]
    refine runAllPrints _ (List.forall_mem_map.mpr fun t mem s p here => ?_) s
    exact List.mem_flatMap.mpr ⟨t,mem,ih t mem (linear.part mem) s p here⟩
  | choice number? first rest m ih =>
    rw [numbersChoice]
    refine runAnyPrints (withProbesFrom number? 0 (first :: rest)) (fun u mem => ?_) s
    obtain ⟨t, inside, place, rfl⟩ := alternativeMem mem
    refine runProbedPrints (fun node same => same ▸ List.mem_cons_self) (fun s p here => ?_)
    exact List.mem_cons_of_mem _
      (List.mem_flatMap.mpr ⟨t,inside,ih t inside (linear.part inside) s p here⟩)
  | wrap wrapper child m ih =>
    obtain ⟨enter, leave, around⟩ := linear.wrapper law
    simp only [withProbes, run, around, numbers]
    intro p mem
    rcases Ran.printedAndThen mem with opening | ⟨inner, later⟩
    · exact absurd opening List.not_mem_nil
    · rcases Ran.printedAndThen later with here | ⟨_, closing⟩
      · exact ih (linear.part List.mem_cons_self) inner p here
      · exact absurd closing List.not_mem_nil

def Reports (probes printed : List Probe) (numbers : List (Option Nat)) : Prop :=
  ∀ node, some node ∈ numbers → taken probes node = taken printed node

theorem Reports.left {probes before after : List Probe} {numbers others : List (Option Nat)}
    (reports : Reports probes (before ++ after) (numbers ++ others))
    (distinct : (numbers ++ others).Nodup) (own : ∀ p ∈ after, some p.1 ∈ others) :
    Reports probes before numbers := by
  intro node mem
  rw [reports node (List.mem_append_left _ mem)]
  refine takenAppendLeft fun p printed same => ?_
  exact (List.nodup_append.mp distinct).2.2 _ mem _ (own p printed) (by rw [same])

theorem Reports.right {probes before after : List Probe} {numbers others : List (Option Nat)}
    (reports : Reports probes (before ++ after) (numbers ++ others))
    (distinct : (numbers ++ others).Nodup) (own : ∀ p ∈ before, some p.1 ∈ numbers) :
    Reports probes after others := by
  intro node mem
  rw [reports node (List.mem_append_right _ mem)]
  refine takenAppendRight fun p printed same => ?_
  exact (List.nodup_append.mp distinct).2.2 _ (own p printed) _ mem (by rw [same])

def Repeats (e : Engine σ) (t : Tactic) : Prop :=
  ∀ s s' printed probes, t.withProbes.run e s = ⟨printed,some s'⟩ →
    Reports probes printed t.numbers → (chosen probes t).withoutChecks.run e s = ⟨[],some s'⟩

theorem stepsRepeat (law : e.Lawful) {ts : List Tactic} (linear : ∀ t ∈ ts, t.Linear)
    (each : ∀ t ∈ ts, t.numbers.Nodup → Repeats e t) (distinct : (ts.flatMap numbers).Nodup)
    {s s' : σ} {printed probes} (ran : runAll e (ts.map withProbes) s = ⟨printed,some s'⟩)
    (reports : Reports probes printed (ts.flatMap numbers)) :
    runAll e ((ts.map (chosen probes)).map withoutChecks) s = ⟨[],some s'⟩ := by
  induction ts generalizing s printed with
  | nil =>
    cases ran
    rfl
  | cons t ts ih =>
    obtain ⟨linearHead, linearTail⟩ := List.forall_mem_cons.mp linear
    obtain ⟨head, tail⟩ := List.forall_mem_cons.mp each
    rw [List.flatMap_cons] at distinct reports
    obtain ⟨distinctHead, distinctTail, _⟩ := List.nodup_append.mp distinct
    obtain ⟨before, middle, after, here, later, rfl⟩ := Ran.andThenSome.mp ran
    have ownHead : ∀ p ∈ before, some p.1 ∈ t.numbers := by
      simpa [here] using printedOwn law linearHead s
    have ownTail : ∀ p ∈ after, some p.1 ∈ ts.flatMap numbers := by
      have own := runAllPrints (e := e) (ts.map withProbes)
        (P := fun p => some p.1 ∈ ts.flatMap numbers)
        (List.forall_mem_map.mpr fun u mem s p printed => List.mem_flatMap.mpr
          ⟨u,mem,printedOwn law (linearTail u mem) s p printed⟩) middle
      simpa [later] using own
    have first := head distinctHead s middle before probes here
      (reports.left distinct ownTail)
    have rest := ih linearTail tail distinctTail later (reports.right distinct ownHead)
    exact Ran.andThenSome.mpr ⟨[],middle,[],first,rest,rfl⟩

theorem alternativeRepeats (law : e.Lawful) (ts : List Tactic) (index : Nat)
    (linear : ∀ t ∈ ts, t.Linear)
    (each : ∀ t ∈ ts, t.numbers.Nodup → Repeats e t) (distinct : (ts.flatMap numbers).Nodup)
    {node : Nat} (fresh : some node ∉ ts.flatMap numbers) {s s' : σ} {printed probes}
    (ran : runAny e (withProbesFrom (some node) index ts) s = ⟨printed,some s'⟩)
    (reports : Reports probes printed (ts.flatMap numbers)) :
    ∃ place t, ts[place]? = some t ∧ taken printed node = index + place ∧
      (chosen probes t).withoutChecks.run e s = ⟨[],some s'⟩ := by
  induction ts generalizing index printed with
  | nil => cases ran
  | cons t ts ih =>
    obtain ⟨linearHead, linearTail⟩ := List.forall_mem_cons.mp linear
    obtain ⟨head, tail⟩ := List.forall_mem_cons.mp each
    rw [List.flatMap_cons] at distinct reports fresh
    obtain ⟨distinctHead, distinctTail, _⟩ := List.nodup_append.mp distinct
    obtain ⟨freshHead, freshTail⟩ := not_or.mp (mt List.mem_append.mpr fresh)
    rcases Ran.orElseSome.mp ran with succeeded | ⟨before, after, failed, later, rfl⟩
    · obtain ⟨inner, here, rfl⟩ := runProbed law succeeded
      refine ⟨0,t,rfl,takenReported inner node index,head distinctHead s s' inner probes here ?_⟩
      intro own mem
      rw [reports own (List.mem_append_left _ mem)]
      refine takenAppendLeft fun p reported same => freshHead ?_
      rw [List.mem_singleton.mp reported] at same
      rwa [← same] at mem
    · have ownHead : ∀ p ∈ before, some p.1 ∈ t.numbers := by
        simpa [runProbedFailed law failed] using printedOwn law linearHead s
      obtain ⟨place, u, found, place_taken, repeated⟩ := ih _ linearTail tail distinctTail freshTail
        later (reports.right distinct ownHead)
      refine ⟨place+1,u,found,?_,repeated⟩
      have others : ∀ p ∈ before, p.1 ≠ node := by
        rintro p printed rfl
        exact freshHead (ownHead p printed)
      rw [takenAppendRight others, place_taken]
      omega

theorem atomicRepeats (law : e.Lawful) {text : String} {m : Messages}
    (silent : Vocabulary.probeOf? text = none) : Repeats e (.atomic text m) := by
  intro s s' printed probes ran reports
  simp only [withProbes, run, silent, Option.toList_none, Ran.mk.injEq] at ran
  simp only [chosen, withoutChecks]
  split
  · rename_i check
    rw [check] at ran
    rw [law.check s s' ran.2]
    rfl
  · simp [run, silent, ran.2]

theorem wrapRepeats {wrapper : Wrapper} {child : Tactic} {m : Messages} (once : e.RunsOnce wrapper)
    (body : Repeats e child) : Repeats e (.wrap wrapper child m) := by
  intro s s' printed probes ran reports
  obtain ⟨enter, leave, around⟩ := once
  simp only [withProbes, chosen, withoutChecks, run, around, Ran.within] at ran ⊢
  obtain ⟨opening, inner, rest, entered, inside, rfl⟩ := Ran.andThenSome.mp ran
  obtain ⟨own, after, closing, here, left, rfl⟩ := Ran.andThenSome.mp inside
  obtain ⟨rfl, entered⟩ := Ran.mk.inj entered
  obtain ⟨rfl, left⟩ := Ran.mk.inj left
  have repeated := body inner after own probes here (by simpa [numbers] using reports)
  exact Ran.andThenSome.mpr ⟨[],inner,[],by rw [entered],
    Ran.andThenSome.mpr ⟨[],after,[],repeated,by rw [left],rfl⟩,rfl⟩

theorem chosenRepeats (law : e.Lawful) {t : Tactic} (linear : t.Linear)
    (numbered : none ∉ t.numbers) (distinct : t.numbers.Nodup) : Repeats e t := by
  induction t using treeInduction with
  | atomic text m => exact atomicRepeats law (linear.unprobed text List.mem_cons_self)
  | sequence children m ih =>
    intro s s' printed probes ran reports
    simp only [numbers, numbersOfFlat] at numbered distinct reports
    simp only [withProbes, withProbesAllMap, run] at ran
    simp only [chosen, chosenAllMap, withoutChecks, withoutChecksAllMap, run]
    refine stepsRepeat law (fun t mem => linear.part mem) (fun t mem => ?_) distinct ran reports
    exact ih t mem (linear.part mem) fun inside =>
      numbered (List.mem_flatMap.mpr ⟨t,mem,inside⟩)
  | choice number? first rest m ih =>
    intro s s' printed probes ran reports
    rw [numbersChoice] at numbered distinct reports
    obtain ⟨fresh, apart⟩ := List.nodup_cons.mp distinct
    obtain ⟨isNumbered, inside⟩ := not_or.mp (mt List.mem_cons.mpr numbered)
    obtain ⟨node, rfl⟩ := Option.ne_none_iff_exists'.mp (Ne.symm isNumbered)
    obtain ⟨place, t, found, place_taken, repeated⟩ := alternativeRepeats law
      (first :: rest) 0 (fun t mem => linear.part mem)
      (fun t mem distinct => ih t mem (linear.part mem)
        (fun here => inside (List.mem_flatMap.mpr ⟨t,mem,here⟩)) distinct)
      apart fresh ran fun own mem => reports own (List.mem_cons_of_mem _ mem)
    have index : takenAt probes (some node) = place := by
      rw [takenAt, reports node List.mem_cons_self, place_taken, Nat.zero_add]
    rw [chosen, pick, chosenAllMap, ← List.map_cons, index, List.getElem?_map, found,
      Option.map_some, Option.getD_some, withoutChecksInheriting, runInheriting]
    exact repeated
  | wrap wrapper child m ih =>
    exact wrapRepeats (linear.wrapper law) (ih (linear.part List.mem_cons_self) numbered distinct)

theorem withChecksLinear {t : Tactic} (once : ∀ w ∈ t.wrappers, w = .solve1 ∨ w = .focus)
    (unprobed : ∀ text ∈ t.atoms, ∀ node index, text ≠ Vocabulary.probe node index) :
    t.withChecks.numbered.Linear := by
  constructor
  · rwa [(numberedRenumbers _).wrappers, wrappersWithChecks]
  · rw [(numberedRenumbers _).atoms]
    intro text mem
    rcases atomsWithChecks mem with own | rfl
    · cases found : Vocabulary.probeOf? text with
      | none => rfl
      | some p => exact absurd (Vocabulary.eqProbe found) (unprobed text own p.1 p.2)
    · rfl

/-- Whatever the instrumented code of a step led to, the code that is recorded for the step and
sent again without its checks leads to from the same state. -/
theorem recordedCodeReplays (e : Engine σ) (law : e.Lawful) (t : Tactic)
    (once : ∀ w ∈ t.wrappers, w = .solve1 ∨ w = .focus)
    (unprobed : ∀ text ∈ t.atoms, ∀ node index, text ≠ Vocabulary.probe node index)
    (few : t.choiceCount ≤ reserved) (s s' : σ) (probes : List Probe)
    (ran : t.withChecks.instrument.2.run e s = ⟨probes,some s'⟩) :
    ∃ effective, t.withChecks.instrument.1.resolve? probes = some effective ∧
      effective.withoutChecks.run e s = ⟨[],some s'⟩ ∧
      effective.withoutChecks.source false = effective.source true := by
  have unreserved := numberedUnreserved (choiceCountWithChecks t ▸ few)
  have isNumbered : none ∉ t.withChecks.numbered.numbers := by
    simp [(numberedRenumbers t.withChecks).numbers]
  refine ⟨_,resolveChosen probes unreserved,?_,sourceWithoutChecks _⟩
  exact chosenRepeats law (withChecksLinear once unprobed) isNumbered (numberedDistinct _) s s'
    probes probes ran fun _ _ => rfl

def notingEngine : Engine (List String) where
  atom text s :=
    if text = "intro x" ∨ text = "exact h" then none
    else if text = Vocabulary.noMetaVars ∨ (Vocabulary.probeOf? text).isSome then some s
    else some (s ++ [text])
  around _ := Ran.within some fun _ => some

theorem notingEngineLawful : notingEngine.Lawful where
  check s s' ran := by
    have kept : notingEngine.atom Vocabulary.noMetaVars s = some s := rfl
    exact Option.some.inj (ran.symm.trans kept)
  probe node index s := by
    have other : ∀ text, Vocabulary.probeOf? text = none → Vocabulary.probe node index ≠ text :=
      fun _ unread => (Vocabulary.neProbe unread node index).symm
    simp [notingEngine, Vocabulary.probeOfProbe, other "intro x" (by decide +kernel),
      other "exact h" (by decide +kernel)]
  solve1 := ⟨some,fun _ => some,fun _ _ => rfl⟩
  focus := ⟨some,fun _ => some,fun _ _ => rfl⟩

def abandoningTactic : Tactic :=
  .choice none
    (.sequence [.choice none (.atomic "intro x") [.atomic "split"],.atomic "exact h"])
    [.wrap .solve1 (.atomic "apply h")]

theorem recordedCodeReplaysAbandoning :
    abandoningTactic.withChecks.instrument.2.run notingEngine [] = ⟨[(1,1),(0,1)],some ["apply h"]⟩ ∧
      ∃ effective, abandoningTactic.withChecks.instrument.1.resolve? [(1,1),(0,1)] = some effective ∧
        effective.withoutChecks.run notingEngine [] = ⟨[],some ["apply h"]⟩ ∧
        effective.withoutChecks.source false = effective.source true := by
  have ran : abandoningTactic.withChecks.instrument.2.run notingEngine [] =
      ⟨[(1,1),(0,1)],some ["apply h"]⟩ := by decide +kernel
  refine ⟨ran,recordedCodeReplays notingEngine notingEngineLawful abandoningTactic ?_ ?_ ?_ _ _ _ ran⟩
  · decide
  · exact fun text mem => Vocabulary.neProbe
      ((by decide +kernel : ∀ text ∈ abandoningTactic.atoms, Vocabulary.probeOf? text = none) text mem)
  · decide

end ProofTutor.Tactic
