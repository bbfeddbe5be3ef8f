import ProofTutor.Proofs.Step.Counter
import ProofTutor.Proofs.Tactic.Resolution
import ProofTutor.Proofs.Term.FreshName
import ProofTutor.Proofs.Text.Basic

/-! The names that a step introduces are new to the context and differ from one another, but for
the two branches of a disjunction, which share one name, and for an object whose variable is called
what the next hypothesis will be called: the name of the object and that of its property avoid the
context only, not each other. -/
namespace ProofTutor.Workbench
variable {w : Workbench} {a : Action}

/-! ### Where the names come from -/

def Mints (w : Workbench) : Instruction → Prop
  | .intro name =>
    name = w.newHypothesis.1 ∨ name = w.newObject (w.goal.target.boundName?.getD "x")
  | .byContradiction name | .byCases name _ => name = w.newHypothesis.1
  | .cases hypothesis first second => ∃ h ∈ w.goal.context, h.name = hypothesis ∧
    (first = w.newHypothesis.1 ∨ first = w.newObject (h.type.boundName?.getD "x")) ∧
      (second = w.newHypothesis.1 ∨ second = w.newHypotheses.2.1)
  | .assert name _ => name = w.newHypothesis.1 ∨ name = w.newHypotheses.2.1 ∨
    ∃ k ∈ w.goal.names, name = Naming.primedName k w.goal.names
  | .other text => Instruction.Plain text

theorem newHypothesisNew (w : Workbench) : w.newHypothesis.1 ∉ w.goal.names :=
  Naming.hypothesisNameNew _ _

theorem secondHypothesisNew (w : Workbench) : w.newHypotheses.2.1 ∉ w.goal.names :=
  Naming.hypothesisNameNew _ _

theorem newHypothesesDiffer (w : Workbench) : w.newHypotheses.1 ≠ w.newHypotheses.2.1 := by
  intro same
  have later := Naming.hypothesisNameAfter w.goal.names w.newHypothesis.2
  exact later.ne (Naming.hypothesisInjective same)

theorem newObjectNew (w : Workbench) (hint : String) : w.newObject hint ∉ w.goal.names :=
  Naming.freshNameNew _ _ _

theorem mintedNew {c : Instruction} (mints : w.Mints c) :
    ∀ name ∈ c.names, name ∉ w.goal.names := by
  have one {name : String} (new : name ∉ w.goal.names) : ∀ n ∈ [name], n ∉ w.goal.names :=
    List.forall_mem_singleton.mpr new
  cases c with
  | intro name =>
    rcases mints with rfl | rfl
    · exact one (newHypothesisNew w)
    · exact one (newObjectNew w _)
  | byContradiction name => exact one (mints ▸ newHypothesisNew w)
  | byCases name property => exact one (mints ▸ newHypothesisNew w)
  | cases hypothesis first second =>
    obtain ⟨h, _, _, left, right⟩ := mints
    refine List.forall_mem_cons.mpr ⟨?_, one ?_⟩
    · rcases left with rfl | rfl
      · exact newHypothesisNew w
      · exact newObjectNew w _
    · rcases right with rfl | rfl
      · exact newHypothesisNew w
      · exact secondHypothesisNew w
  | assert name value =>
    rcases mints with rfl | rfl | ⟨k, _, rfl⟩
    · exact one (newHypothesisNew w)
    · exact one (secondHypothesisNew w)
    · exact one (Naming.primedNameNew _ _)
  | other text => simp [Instruction.names]

def Clashes (w : Workbench) (a : Action) : Prop :=
  a.button = some .existential ∧
    ∃ h, w.selected a = .ok [h] ∧ h.type.boundName?.getD "x" = w.newHypothesis.1

theorem objectOfHypothesis {hint : String} :
    w.newObject hint = w.newHypothesis.1 ↔ hint = w.newHypothesis.1 := by
  constructor
  · intro same
    rcases Naming.freshNameMarked hint w.goal.names w.naming.allowDoublePrime with own | marked
    · exact own.symm.trans same
    · obtain ⟨mark, among, inside⟩ := marked
      have letters : mark ∈ w.newHypothesis.1.toList := same ▸ inside
      rw [newHypothesis, Naming.hypothesisName, Naming.hypothesisCharacters] at letters
      rcases List.mem_cons.mp letters with rfl | digit
      · simp at among
      · have digit := Text.digitsAreDigits _ mark digit
        rcases List.mem_pair.mp among with rfl | rfl
        · cases digit
        · cases digit
  · rintro rfl
    exact Naming.freshNameFree (newHypothesisNew w) _

/-! ### What the instructions of a step introduce -/

structure Introduces (w : Workbench) (a : Action) (t : Tactic) (instructions : List Instruction) :
    Prop where
  texts : t.atoms = instructions.map Instruction.text
  mints : ∀ c ∈ instructions, w.Mints c
  new : ∀ name ∈ instructions.flatMap Instruction.names, name ∉ w.goal.names
  distinct : ¬ w.Clashes a → (instructions.flatMap Instruction.names).Nodup ∨
    a.button = some .or ∧ ∃ h name, instructions = [.cases h name name]
  repeated : w.Clashes a → ∃ h name, instructions = [.cases h name name]

theorem Introduces.inheriting {t : Tactic} {instructions : List Instruction}
    (introduces : w.Introduces a t instructions) (m : Messages) :
    w.Introduces a (t.inheriting m) instructions :=
  { introduces with texts := (Tactic.atomsInheriting t m).trans introduces.texts }

section Apart
variable (apart : ¬ w.Clashes a)
include apart

theorem introducesDistinct {t : Tactic} {instructions : List Instruction}
    (texts : t.atoms = instructions.map Instruction.text) (mints : ∀ c ∈ instructions, w.Mints c)
    (distinct : (instructions.flatMap Instruction.names).Nodup ∨
      a.button = some .or ∧ ∃ h name, instructions = [.cases h name name]) :
    w.Introduces a t instructions where
  texts := texts
  mints := mints
  new := fun name mem => by
    obtain ⟨c, among, own⟩ := List.mem_flatMap.mp mem
    exact mintedNew (mints c among) name own
  distinct := fun _ => distinct
  repeated := fun clash => absurd clash apart

theorem introducesNothing {t : Tactic} (plain : ∀ text ∈ t.atoms, Instruction.Plain text) :
    w.Introduces a t (t.atoms.map .other) := by
  have same : (t.atoms.map Instruction.other).map Instruction.text = t.atoms := by
    rw [List.map_map]
    exact List.map_id _
  have nameless : (t.atoms.map Instruction.other).flatMap Instruction.names = [] := by
    simp [List.flatMap_map, Instruction.names]
  exact introducesDistinct apart same.symm (List.forall_mem_map.mpr plain)
    (.inl (nameless ▸ List.nodup_nil))

theorem aloneIntroduces {c : Instruction} {counter : Nat} (alone : Alone w a c counter)
    (button : a.button ≠ some .code) {t : Tactic} (texts : t.atoms = [c.text]) :
    w.Introduces a t [c] := by
  have single {c : Instruction} {name : String} {t : Tactic} (texts : t.atoms = [c.text])
      (mints : w.Mints c) (own : c.names = [name]) : w.Introduces a t [c] := by
    refine introducesDistinct apart texts (List.forall_mem_singleton.mpr mints) (.inl ?_)
    rw [List.flatMap_singleton, own]
    exact List.nodup_singleton name
  cases alone with
  | introObject button => exact single texts (.inr rfl) rfl
  | intro button minted => exact single texts (.inl (by rw [minted])) rfl
  | byContradiction button minted =>
    exact single texts (show _ = w.newHypothesis.1 by rw [minted]) rfl
  | byCases button minted => exact single texts (show _ = w.newHypothesis.1 by rw [minted]) rfl
  | assert button minted => exact single texts (.inl (by rw [minted])) rfl
  | @witness h new _ existential found minted =>
    have known := selectedKnown found h List.mem_cons_self
    have new : new = w.newHypothesis.1 := by rw [minted]
    refine introducesDistinct apart texts (List.forall_mem_singleton.mpr ?_) (.inl ?_)
    · exact ⟨h, known, rfl, .inr rfl, .inl new⟩
    · rw [List.flatMap_singleton, new]
      refine List.nodup_cons.mpr ⟨fun same => ?_, List.nodup_singleton _⟩
      exact apart ⟨existential, h, found, objectOfHypothesis.mp (List.mem_singleton.mp same)⟩
  | @conjuncts h first second _ button found minted =>
    have known := selectedKnown found h List.mem_cons_self
    have left : first = w.newHypotheses.1 := by rw [minted]
    have right : second = w.newHypotheses.2.1 := by rw [minted]
    refine introducesDistinct apart texts (List.forall_mem_singleton.mpr ?_) (.inl ?_)
    · exact ⟨h, known, rfl, .inl left, .inr right⟩
    · rw [List.flatMap_singleton, left, right]
      refine List.nodup_cons.mpr ⟨fun same => ?_, List.nodup_singleton _⟩
      exact newHypothesesDiffer w (List.mem_singleton.mp same)
  | @disjuncts h new _ or found minted =>
    have known := selectedKnown found h List.mem_cons_self
    have new : new = w.newHypothesis.1 := by rw [minted]
    refine introducesDistinct apart texts (List.forall_mem_singleton.mpr ?_)
      (.inr ⟨or, h.name, _, rfl⟩)
    exact ⟨h, known, rfl, .inl new, .inl new⟩
  | plain plain =>
    refine introducesDistinct apart texts (List.forall_mem_singleton.mpr plain) (.inl ?_)
    exact List.nodup_nil
  | code text other => exact absurd other button

theorem substitutionIntroduces {k : String} (mem : k ∈ w.goal.names) (h arrow : String) :
    w.Introduces a (useEquation h k (Naming.primedName k w.goal.names) arrow)
      [.assert (Naming.primedName k w.goal.names) k,
        .other ("rw " ++ arrow ++ h ++ " at " ++ Naming.primedName k w.goal.names),
        .other ("clear " ++ k)] := by
  refine introducesDistinct apart rfl ?_ (.inl (List.nodup_singleton _))
  refine List.forall_mem_cons.mpr ⟨.inr (.inr ⟨k, mem, rfl⟩), List.forall_mem_cons.mpr ⟨?_, ?_⟩⟩
  · exact Instruction.plainRewritten arrow h _
  · exact List.forall_mem_singleton.mpr (Instruction.plainWord k (by decide))

theorem answerIntroduces {code : Tactic} {counter : Nat} (answer : Answer w a code counter)
    (button : a.button ≠ some .code) :
    ∀ u ∈ code.offers, ∃ instructions, w.Introduces a u instructions := by
  have offers {number? : Option Nat} {first : Tactic} {rest : List Tactic} {m : Messages}
      (each : ∀ t ∈ first :: rest, ∃ instructions, w.Introduces a t instructions) :
      ∀ u ∈ (Tactic.choice number? first rest m).offers,
        ∃ instructions, w.Introduces a u instructions :=
    List.forall_mem_map.mpr fun t mem =>
      (each t mem).imp fun instructions introduces => introduces.inheriting m
  have nothing {t : Tactic} (plain : ∀ text ∈ t.atoms, Instruction.Plain text) :
      ∃ instructions, w.Introduces a t instructions := ⟨_, introducesNothing apart plain⟩
  cases answer with
  | alone alone same =>
    subst same
    exact List.forall_mem_singleton.mpr ⟨_, aloneIntroduces apart alone button rfl⟩
  | @implications first second _ button minted h success =>
    refine List.forall_mem_singleton.mpr
      ⟨[.assert first (h ++ ".mp"), .assert second (h ++ ".mpr")], ?_⟩
    have left : first = w.newHypotheses.1 := by rw [minted]
    have right : second = w.newHypotheses.2.1 := by rw [minted]
    refine introducesDistinct apart ?_ ?_ (.inl ?_)
    · simp [Tactic.atoms, Tactic.atomsOf, Instruction.textAssert, String.append_assoc]
    · exact List.forall_mem_cons.mpr ⟨.inl left, List.forall_mem_singleton.mpr (.inr (.inl right))⟩
    · have differ := newHypothesesDiffer w
      rw [← left, ← right] at differ
      simpa [Instruction.names] using differ
  | negation not minted pushed added =>
    refine offers (List.forall_mem_cons.mpr ⟨?_, List.forall_mem_singleton.mpr ?_⟩)
    · exact nothing (List.forall_mem_singleton.mpr (by decide))
    · exact ⟨_, aloneIntroduces apart (.intro (by simp [not]) minted) button rfl⟩
  | rewriting h success =>
    refine offers (List.forall_mem_cons.mpr ⟨?_, List.forall_mem_singleton.mpr ?_⟩)
    · exact nothing (List.forall_mem_singleton.mpr (Instruction.plainWord h (by decide)))
    · exact nothing (List.forall_mem_singleton.mpr (Instruction.plainBackwards h))
  | substitution equal h mem =>
    refine offers (List.forall_mem_cons.mpr ⟨?_, List.forall_mem_singleton.mpr ?_⟩)
    · exact ⟨_, substitutionIntroduces apart mem h ""⟩
    · exact ⟨_, substitutionIntroduces apart mem h "← "⟩
  | absurdity x y success =>
    refine offers (List.forall_mem_cons.mpr ⟨?_, List.forall_mem_singleton.mpr ?_⟩)
    · exact nothing (List.forall_mem_singleton.mpr (Instruction.plainAbsurd x y))
    · exact nothing (List.forall_mem_singleton.mpr (Instruction.plainAbsurd y x))
  | closing success =>
    have plain : ∀ t ∈ [Tactic.atomic "assumption", .atomic "contradiction",
        (Tactic.atomic "norm_num").solve1, .atomic "linarith"],
        ∀ text ∈ t.atoms, Instruction.Plain text := by decide
    exact offers fun t mem => nothing (plain t mem)
  | definition name defined applied =>
    refine offers (List.forall_mem_cons.mpr ⟨?_, List.forall_mem_singleton.mpr ?_⟩)
    · exact nothing (List.forall_mem_singleton.mpr (Instruction.plainWord _ (by decide)))
    · exact nothing (List.forall_mem_singleton.mpr (Instruction.plainWord _ (by decide)))
  | definitionAt statement minted name h defined added =>
    refine offers (List.forall_mem_cons.mpr ⟨?_, List.forall_mem_singleton.mpr ?_⟩)
    · exact nothing (List.forall_mem_singleton.mpr (Instruction.plainRewriteAt name h))
    · exact ⟨_, aloneIntroduces apart
        (.assert (by simp [statement]) minted (name ++ " " ++ h)) button
        (by simp [tactic, Tactic.atoms, Instruction.textAssert, String.append_assoc])⟩

end Apart

theorem clashCode {plan : Plan} {counter : Nat} (clash : w.Clashes a)
    (built : w.build a = .ok (plan, counter)) : ∃ h ∈ w.goal.context, ∃ success, plan.code =
      tactic (Instruction.cases h.name w.newHypothesis.1 w.newHypothesis.1).text success := by
  obtain ⟨button, h, found, same⟩ := clash
  have existential : w.draft a = w.existential a := by rw [draft, button]
  have yields : Yields w (fun code _ => ∃ success, code =
      tactic (Instruction.cases h.name w.newHypothesis.1 w.newHypothesis.1).text success)
      w.counter (w.existential a) := by
    refine yieldsBind fun entries known => ?_
    cases found.symm.trans known
    refine yieldsIte (yieldsRefusal _) ?_
    have object := objectOfHypothesis.mpr same
    refine yieldsMint fun new counter minted => ?_
    have minted : w.newHypothesis = (new, counter) := minted
    rw [object, minted]
    exact yieldsPlan ⟨_, rfl⟩
  exact ⟨h, selectedKnown found h List.mem_cons_self,
    yieldsAnswer (existential ▸ yields) (buildPlan.mp built)⟩

theorem clashIntroduces {plan : Plan} {counter : Nat} (clash : w.Clashes a)
    (built : w.build a = .ok (plan, counter)) :
    ∀ u ∈ plan.code.offers, ∃ instructions, w.Introduces a u instructions := by
  obtain ⟨h, known, success, code⟩ := clashCode clash built
  rw [code]
  refine List.forall_mem_singleton.mpr ⟨[.cases h.name w.newHypothesis.1 w.newHypothesis.1], ?_⟩
  have mints : w.Mints (.cases h.name w.newHypothesis.1 w.newHypothesis.1) :=
    ⟨h, known, rfl, .inl rfl, .inl rfl⟩
  exact
    { texts := rfl
      mints := List.forall_mem_singleton.mpr mints
      new := by rw [List.flatMap_singleton]; exact mintedNew mints
      distinct := fun apart => absurd clash apart
      repeated := fun _ => ⟨_, _, rfl⟩ }

theorem mintedNames {plan : Plan} {counter : Nat}
    (built : w.build a = .ok (plan, counter)) (button : a.button ≠ some .code)
    (probes : List Tactic.Probe) : ∃ effective instructions,
      plan.code.instrument.1.resolve? probes = some effective ∧
        w.Introduces a effective instructions := by
  obtain ⟨u, offered, resolved⟩ := Tactic.resolvedOffer (answerFlat (buildAnswer built)) probes
  obtain ⟨instructions, introduces⟩ : ∃ instructions, w.Introduces a u instructions := by
    by_cases clash : w.Clashes a
    · exact clashIntroduces clash built u offered
    · exact answerIntroduces clash (buildAnswer built) button u offered
  exact ⟨u, instructions, resolved, introduces⟩

def existence (name : String) : Term :=
  .bind .existential (.boundVar name 0 .sort) (.leaf .truth)

def existing (name : String) : Workbench :=
  { goal := { context := [{ term := .localConstant "h" "1" (existence name) }],
              target := .leaf .truth } }

def takeApart : Action :=
  { selection := ["h"], button := some .existential }

def takenApart (name : String) : Tactic :=
  tactic ("cases h with " ++ name ++ " H1") ("Object " ++ name ++ " and property H1 introduced")

theorem mintedNamesOfExisting : ∃ effective instructions,
    (takenApart "x").instrument.1.resolve? [] = some effective ∧
      (existing "x").Introduces takeApart effective instructions :=
  mintedNames (rfl : (existing "x").build takeApart = .ok ({ code := takenApart "x" }, 1))
    (by decide) []

/-- A variable that is called as the next hypothesis gives its name away. -/
theorem mintedTwice :
    (existing "H1").build takeApart = .ok ({ code := takenApart "H1" }, 1) ∧
      takeApart.button ≠ some .code ∧ takeApart.button ≠ some .or ∧
      (takenApart "H1").instrument.1.resolve? [] = some (takenApart "H1") ∧
      (takenApart "H1").atoms = [(Instruction.cases "h" "H1" "H1").text] ∧
      "H1" ∉ (existing "H1").goal.names ∧ ¬ (Instruction.cases "h" "H1" "H1").names.Nodup :=
  ⟨rfl, by decide, by decide, rfl, rfl, by decide, by decide⟩

end ProofTutor.Workbench
