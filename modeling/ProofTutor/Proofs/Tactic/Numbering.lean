import ProofTutor.Proofs.Tactic.Structure
import ProofTutor.Proofs.Tactic.Selection

/-! What numbering and the checks for metavariables leave of a tree: its atomic tactics and its
wrappers. The numbers count up from the given one in the order in which the choices are met. -/
namespace ProofTutor.Tactic

mutual

def wrappers : Tactic → List Wrapper
  | .atomic _ _ => []
  | .sequence children _ => wrappersOf children
  | .choice _ first rest _ => wrappers first ++ wrappersOf rest
  | .wrap wrapper child _ => wrapper :: wrappers child

def wrappersOf : List Tactic → List Wrapper
  | [] => []
  | t :: ts => wrappers t ++ wrappersOf ts

end

theorem wrappersOfFlat (ts : List Tactic) : wrappersOf ts = ts.flatMap wrappers := by
  induction ts with
  | nil => rfl
  | cons t ts ih => simp [wrappersOf, ih]

structure Renumbered (next : Nat) (t u : Tactic) : Prop where
  numbers : u.numbers = (List.range' next t.choiceCount).map some
  atoms : u.atoms = t.atoms
  wrappers : u.wrappers = t.wrappers

structure RenumberedAll (next : Nat) (ts us : List Tactic) : Prop where
  numbers : numbersOf us = (List.range' next (choiceCountOf ts)).map some
  atoms : atomsOf us = atomsOf ts
  wrappers : wrappersOf us = wrappersOf ts

theorem numberAllRenumbers {ts : List Tactic} (inside : ∀ t ∈ ts, ∀ next,
      Renumbered next t (t.number next).1 ∧ (t.number next).2 = next + t.choiceCount)
    (next : Nat) : RenumberedAll next ts (numberAll next ts).1 ∧
      (numberAll next ts).2 = next + choiceCountOf ts := by
  induction ts generalizing next with
  | nil => exact ⟨⟨rfl,rfl,rfl⟩,rfl⟩
  | cons t ts ih =>
    obtain ⟨head, tail⟩ := List.forall_mem_cons.mp inside
    obtain ⟨here, after⟩ := head next
    obtain ⟨later, last⟩ := ih tail (next + t.choiceCount)
    simp only [numberAll, after]
    refine ⟨⟨?_,?_,?_⟩,?_⟩
    · simp [numbersOf, here.numbers, later.numbers, choiceCountOf, ← List.range'_append_1]
    · simp [atomsOf, here.atoms, later.atoms]
    · simp [wrappersOf, here.wrappers, later.wrappers]
    · rw [last, choiceCountOf, Nat.add_assoc]

theorem numberRenumbers (t : Tactic) (next : Nat) :
    Renumbered next t (t.number next).1 ∧ (t.number next).2 = next + t.choiceCount := by
  induction t using treeInduction generalizing next with
  | atomic text m => exact ⟨⟨rfl,rfl,rfl⟩,rfl⟩
  | sequence children m ih =>
    obtain ⟨all, after⟩ := numberAllRenumbers ih next
    exact ⟨⟨all.numbers,all.atoms,all.wrappers⟩,after⟩
  | choice number? first rest m ih =>
    obtain ⟨head, tail⟩ := List.forall_mem_cons.mp ih
    obtain ⟨here, after⟩ := head (next + 1)
    obtain ⟨later, last⟩ := numberAllRenumbers tail (next + 1 + first.choiceCount)
    simp only [number, after]
    refine ⟨⟨?_,?_,?_⟩,?_⟩
    · simp [numbers, here.numbers, later.numbers, choiceCount, List.range'_succ,
        ← List.range'_append_1]
    · simp [atoms, here.atoms, later.atoms]
    · simp [wrappers, here.wrappers, later.wrappers]
    · rw [last, choiceCount]
      omega
  | wrap wrapper child m ih =>
    obtain ⟨here, after⟩ := ih next
    exact ⟨⟨here.numbers,here.atoms,by simp [number, wrappers, here.wrappers]⟩,after⟩

theorem numberedRenumbers (t : Tactic) : Renumbered 0 t t.numbered :=
  (numberRenumbers t 0).1

theorem numberedDistinct (t : Tactic) : t.numbered.numbers.Nodup := by
  rw [(numberedRenumbers t).numbers]
  exact List.Pairwise.map some (fun _ _ other same => other (Option.some.inj same))
    List.nodup_range'

theorem numberedUnreserved {t : Tactic} (few : t.choiceCount ≤ reserved) :
    some reserved ∉ t.numbered.numbers := by
  rw [(numberedRenumbers t).numbers]
  simp only [List.mem_map, Option.some.injEq, exists_eq_right, List.mem_range'_1]
  omega

theorem choiceCountWithChecks (t : Tactic) : t.withChecks.choiceCount = t.choiceCount := by
  induction t using treeInduction with
  | atomic text m => rw [withChecks]; split <;> rfl
  | sequence children m ih =>
    have same := List.map_congr_left ih
    simp only [withChecks, choiceCount, withChecksAllMap, choiceCountOfSum, List.map_map,
      Function.comp_def, same]
  | choice number? first rest m ih =>
    obtain ⟨head, tail⟩ := List.forall_mem_cons.mp ih
    have same := List.map_congr_left tail
    simp only [withChecks, choiceCount, withChecksAllMap, choiceCountOfSum, List.map_map,
      Function.comp_def, head, same]
  | wrap wrapper child m ih => exact ih

theorem wrappersWithChecks (t : Tactic) : t.withChecks.wrappers = t.wrappers := by
  induction t using treeInduction with
  | atomic text m => rw [withChecks]; split <;> rfl
  | sequence children m ih =>
    simp only [withChecks, wrappers, withChecksAllMap, wrappersOfFlat, List.flatMap_map]
    exact List.flatMap_congr ih
  | choice number? first rest m ih =>
    obtain ⟨head, tail⟩ := List.forall_mem_cons.mp ih
    simp only [withChecks, wrappers, withChecksAllMap, wrappersOfFlat, List.flatMap_map, head]
    rw [List.flatMap_congr tail]
  | wrap wrapper child m ih => simp only [withChecks, wrappers, ih]

theorem atomsWithChecks {t : Tactic} {text : String} (mem : text ∈ t.withChecks.atoms) :
    text ∈ t.atoms ∨ text = Vocabulary.noMetaVars := by
  rw [atomsChecked] at mem
  obtain ⟨own, inside, here⟩ := List.mem_flatMap.mp mem
  rw [withCheck] at here
  split at here
  · rcases List.mem_pair.mp here with rfl | check
    · exact .inl inside
    · exact .inr check
  · exact .inl (List.mem_singleton.mp here ▸ inside)

end ProofTutor.Tactic
