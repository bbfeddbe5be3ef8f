import ProofTutor.Proofs.Tactic.Numbering
import ProofTutor.Proofs.Tactic.Structure
import ProofTutor.Proofs.Text.Basic

/-! Trees whose only choice is at the root. The probes select one of the alternatives, and the
message that is shown for its source is its own if no alternative before it is found in that
source. -/
namespace ProofTutor.Tactic

def Flat : Tactic → Prop
  | .choice _ first rest _ => ∀ t ∈ first :: rest, t.firstChoice? = none
  | t => t.firstChoice? = none

def offers : Tactic → List Tactic
  | .choice _ first rest m => (first :: rest).map (inheriting m)
  | t => [t]

/-! ### Selecting -/

structure Free (t : Tactic) : Prop where
  number : ∀ next, t.number next = (t, next)
  count : t.choiceCount = 0
  alternatives : t.allAlternatives = []

structure FreeAll (ts : List Tactic) : Prop where
  number : ∀ next, numberAll next ts = (ts, next)
  count : choiceCountOf ts = 0
  alternatives : allAlternativesOf ts = []

theorem freeParts {ts : List Tactic} (each : ∀ t ∈ ts, t.Free) : FreeAll ts := by
  induction ts with
  | nil => exact ⟨fun _ => rfl, rfl, rfl⟩
  | cons t ts ih =>
    obtain ⟨head, tail⟩ := List.forall_mem_cons.mp each
    have later := ih tail
    exact ⟨fun next => by simp only [numberAll, head.number, later.number],
      by rw [choiceCountOf, head.count, later.count],
      by rw [allAlternativesOf, head.alternatives, later.alternatives, List.append_nil]⟩

theorem choiceFree {t : Tactic} (free : t.firstChoice? = none) : t.Free := by
  induction t using treeInduction with
  | atomic text m => exact ⟨fun _ => rfl, rfl, rfl⟩
  | sequence children m ih =>
    have parts := freeParts fun t mem => ih t mem (firstChoiceOfNone.mp free t mem)
    exact ⟨fun next => by simp only [number, parts.number], parts.count, parts.alternatives⟩
  | choice number? first rest m ih => cases free
  | wrap wrapper child m ih =>
    have part := ih free
    exact ⟨fun next => by simp only [number, part.number], part.count, part.alternatives⟩

theorem numberedFree {t : Tactic} (free : t.firstChoice? = none) : t.numbered = t := by
  rw [numbered, (choiceFree free).number]

section Choice
variable {number? : Option Nat} {first : Tactic} {rest : List Tactic} {m : Messages}

theorem freeAlternatives (flat : (Tactic.choice number? first rest m).Flat) :
    first.Free ∧ FreeAll rest := by
  obtain ⟨head, tail⟩ := List.forall_mem_cons.mp flat
  exact ⟨choiceFree head, freeParts fun t mem => choiceFree (tail t mem)⟩

theorem numberedFlat (flat : (Tactic.choice number? first rest m).Flat) :
    (Tactic.choice number? first rest m).numbered = .choice (some 0) first rest m := by
  obtain ⟨head, tail⟩ := freeAlternatives flat
  simp only [numbered, number, head.number, tail.number]

theorem alternativesFlat (flat : (Tactic.choice number? first rest m).Flat) :
    (Tactic.choice number? first rest m).allAlternatives = first :: rest := by
  obtain ⟨head, tail⟩ := freeAlternatives flat
  rw [allAlternatives, head.alternatives, tail.alternatives, List.append_nil, List.append_nil]

end Choice

theorem flatCount {t : Tactic} (flat : t.Flat) : t.choiceCount ≤ 1 := by
  cases t with
  | choice number? first rest m =>
    obtain ⟨head, tail⟩ := freeAlternatives flat
    rw [choiceCount, head.count, tail.count]
  | atomic text m => exact Nat.zero_le 1
  | sequence children m => exact (choiceFree flat).count.le.trans (Nat.zero_le 1)
  | wrap wrapper child m => exact (choiceFree flat).count.le.trans (Nat.zero_le 1)

theorem offersFree {t : Tactic} (free : t.firstChoice? = none) : t.offers = [t] := by
  cases t with
  | choice number? first rest m => cases free
  | atomic text m => rfl
  | sequence children m => rfl
  | wrap wrapper child m => rfl

theorem resolvedOffer {t : Tactic} (flat : t.Flat) (probes : List Probe) :
    ∃ u ∈ t.offers, t.instrument.1.resolve? probes = some u := by
  have few : t.choiceCount ≤ reserved := (flatCount flat).trans (by decide)
  rw [instrument, resolveChosen probes (numberedUnreserved few)]
  have whole (u : Tactic) (free : u.firstChoice? = none) :
      some (chosen probes u.numbered) = some u := by
    rw [numberedFree free, chosenWithoutChoice probes free]
  cases t with
  | choice number? first rest m =>
    obtain ⟨head, tail⟩ := List.forall_mem_cons.mp flat
    have same : ∀ t ∈ rest, chosen probes t = id t := fun t mem =>
      chosenWithoutChoice probes (tail t mem)
    obtain ⟨u, mem, picked⟩ := pickMem first rest (takenAt probes (some 0)) m
    rw [numberedFlat flat, chosen, chosenWithoutChoice probes head, chosenAllMap,
      List.map_congr_left same, List.map_id, picked]
    exact ⟨_, List.mem_map_of_mem mem, rfl⟩
  | atomic text m => exact ⟨_, List.mem_singleton_self _, whole _ flat⟩
  | sequence children m => exact ⟨_, List.mem_singleton_self _, whole _ flat⟩
  | wrap wrapper child m => exact ⟨_, List.mem_singleton_self _, whole _ flat⟩

/-! ### The message that is shown -/

theorem firstChoiceWithChecks {t : Tactic} (free : t.firstChoice? = none) :
    t.withChecks.firstChoice? = none := by
  induction t using treeInduction with
  | atomic text m =>
    rw [withChecks]
    split <;> rfl
  | sequence children m ih =>
    rw [withChecks, withChecksAllMap]
    exact firstChoiceOfNone.mpr
      (List.forall_mem_map.mpr fun t mem => ih t mem (firstChoiceOfNone.mp free t mem))
  | choice number? first rest m ih => cases free
  | wrap wrapper child m ih => exact ih free

theorem flatWithChecks {t : Tactic} (flat : t.Flat) : t.withChecks.Flat := by
  cases t with
  | choice number? first rest m =>
    rw [withChecks, withChecksAllMap, Flat, ← List.map_cons]
    exact List.forall_mem_map.mpr fun t mem => firstChoiceWithChecks (flat t mem)
  | atomic text m =>
    rw [withChecks]
    split <;> rfl
  | sequence children m => exact @firstChoiceWithChecks (.sequence children m) flat
  | wrap wrapper child m => exact @firstChoiceWithChecks (.wrap wrapper child m) flat

theorem messagesWithChecks (t : Tactic) : t.withChecks.messages = t.messages := by
  cases t with
  | atomic text m =>
    rw [withChecks]
    split <;> rfl
  | sequence children m => rfl
  | choice number? first rest m => rfl
  | wrap wrapper child m => rfl

theorem sourceInheriting (dropChecks : Bool) (t : Tactic) (m : Messages) :
    (t.inheriting m).source dropChecks = t.source dropChecks := by
  cases t <;> rfl

def shown (ts : List Tactic) (source : String) : Option String :=
  (ts.filterMap fun t => if fired (tails source.toList) t then t.messages.success else none).head?

theorem firedWithChecks (tails : List (List Char)) (t : Tactic) :
    fired tails t.withChecks = fired tails t := by
  rw [fired, fired, sourceWithChecks]

theorem shownWithChecks (ts : List Tactic) (source : String) :
    shown (ts.map withChecks) source = shown ts source := by
  simp only [shown, List.filterMap_map, Function.comp_def, firedWithChecks, messagesWithChecks]

def Told : Tactic → Prop
  | .choice _ first rest _ =>
    ∀ t ∈ first :: rest, shown (first :: rest) (t.source true) = t.messages.success
  | _ => True

theorem toldMessage {t : Tactic} (flat : t.Flat) (told : t.Told) (probes : List Probe) :
    ∃ effective, t.withChecks.instrument.1.resolve? probes = some effective ∧
      t.withChecks.instrument.1.successMessageFor (effective.source true) =
        effective.messages.success := by
  have checked := flatWithChecks flat
  obtain ⟨u, offered, resolved⟩ := resolvedOffer checked probes
  refine ⟨u, resolved, ?_⟩
  have whole (t : Tactic) (free : t.firstChoice? = none) (offered : u ∈ t.offers) :
      t.instrument.1.successMessageFor (u.source true) = u.messages.success := by
    rw [offersFree free] at offered
    rw [List.mem_singleton.mp offered, instrument, numberedFree free, successMessageFor,
      (choiceFree free).alternatives]
    rfl
  cases t with
  | choice number? first rest m =>
    rw [withChecks, withChecksAllMap] at checked offered ⊢
    rw [offers, ← List.map_cons] at offered
    obtain ⟨_, among, rfl⟩ := List.mem_map.mp offered
    obtain ⟨t, mem, rfl⟩ := List.mem_map.mp among
    have heard : shown (first.withChecks :: rest.map withChecks) (t.withChecks.source true) =
        t.withChecks.messages.success := by
      rw [← List.map_cons, shownWithChecks, sourceWithChecks, messagesWithChecks]
      exact told t mem
    rw [sourceInheriting, instrument, numberedFlat checked, successMessageFor,
      @alternativesFlat (some 0) _ _ _ checked]
    change (shown _ _).or m.success = _
    rw [heard]
    cases t.withChecks <;> rfl
  | atomic text m => exact whole _ (@firstChoiceWithChecks (.atomic text m) flat) offered
  | sequence children m => exact whole _ checked offered
  | wrap wrapper child m => exact whole _ checked offered

/-! ### What is found in a source -/

theorem firedOwn {t : Tactic} (nonempty : t.source true ≠ "") :
    fired (tails (t.source true).toList) t = true := by
  have own : Text.stripHead? (t.source true).toList (t.source true).toList = .some [] :=
    Text.stripHeadSome.mpr (List.append_nil _).symm
  simp [fired, tails, nonempty, own]

theorem toldNone {number? : Option Nat} {first : Tactic} {rest : List Tactic} {m : Messages}
    (silent : ∀ t ∈ first :: rest, t.messages.success = none) :
    (Tactic.choice number? first rest m).Told := by
  intro t mem
  have nothing (source : String) : shown (first :: rest) source = none := by
    rw [shown, List.head?_eq_none_iff, List.filterMap_eq_nil_iff]
    intro u inside
    rw [silent u inside, ite_self]
  rw [nothing, silent t mem]

theorem toldSame {number? : Option Nat} {first : Tactic} {rest : List Tactic} {m : Messages}
    {message : String} (each : ∀ t ∈ first :: rest, t.messages.success = some message)
    (spoken : ∀ t ∈ first :: rest, t.source true ≠ "") :
    (Tactic.choice number? first rest m).Told := by
  intro t mem
  have found : message ∈ (first :: rest).filterMap fun u =>
      if fired (tails (t.source true).toList) u then u.messages.success else none :=
    List.mem_filterMap.mpr ⟨t, mem, by rw [if_pos (firedOwn (spoken t mem)), each t mem]⟩
  obtain ⟨other, heard⟩ := Option.isSome_iff_exists.mp
    (List.isSome_head?.mpr (List.ne_nil_of_mem found))
  obtain ⟨u, inside, own⟩ := List.mem_filterMap.mp (List.mem_of_head? heard)
  rw [each u inside, Option.ite_none_right_eq_some] at own
  rw [shown, heard, each t mem, own.2]

theorem toldTwo {number? : Option Nat} {t u : Tactic} {m : Messages} {left right : String}
    (first : t.messages.success = some left) (second : u.messages.success = some right)
    (spoken : t.source true ≠ "" ∧ u.source true ≠ "")
    (apart : fired (tails (u.source true).toList) t = false) :
    (Tactic.choice number? t [u] m).Told := by
  refine List.forall_mem_cons.mpr ⟨?_, List.forall_mem_singleton.mpr ?_⟩
  · simp [shown, firedOwn spoken.1, first]
  · simp [shown, firedOwn spoken.2, apart, second]

theorem afterCommasBefore {head : List Char} (whole : ',' ∉ head) (rest : List Char) :
    afterCommas (head ++ rest) = afterCommas rest := by
  induction head with
  | nil => rfl
  | cons c head ih =>
    rw [List.mem_cons, not_or] at whole
    rw [List.cons_append, afterCommas, ih whole.2]
    rintro _ rfl
    exact absurd rfl whole.1

theorem afterCommasShort {rest tail : List Char} (mem : tail ∈ afterCommas rest) :
    tail.length + 2 ≤ rest.length := by
  fun_induction afterCommas rest with
  | case1 => simp at mem
  | case2 rest ih =>
    rcases List.mem_cons.mp mem with rfl | later
    · exact Nat.le_refl _
    · exact (ih later).trans ((Nat.le_succ _).trans (Nat.le_succ _))
  | case3 c rest other ih => exact (ih mem).trans (Nat.le_succ _)

theorem notFired {t : Tactic} {head rest : List Char} (whole : ',' ∉ head)
    (apart : ¬ (t.source true).toList <+: head ++ rest)
    (long : rest.length < (t.source true).toList.length + 2) :
    fired (tails (head ++ rest)) t = false := by
  have nowhere : ∀ tail ∈ tails (head ++ rest),
      (Text.stripHead? (t.source true).toList tail).isSome = false := by
    intro tail mem
    refine Bool.eq_false_iff.mpr fun found => ?_
    have start := Text.headSome.mp found
    rcases List.mem_cons.mp mem with rfl | later
    · exact apart start
    · rw [afterCommasBefore whole] at later
      have short := afterCommasShort later
      have fits := start.length_le
      omega
  rw [fired, List.any_eq_false.mpr fun tail mem => by rw [nowhere tail mem]; exact Bool.false_ne_true]
  exact Bool.and_false _

end ProofTutor.Tactic
