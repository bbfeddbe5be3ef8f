import Mathlib.Data.Finset.Card
import Mathlib.Data.Finset.Dedup
import Mathlib.Data.List.Nodup
import Mathlib.Data.List.Perm.Subperm
import Std.Data.String.ToNat
import ProofTutor.Proofs.Text.Basic
import ProofTutor.Term.Naming

/-!
Names that are chosen clash with nothing that is forbidden: the candidates are distinct, so one of
them is free within one more than there are forbidden names. The one chosen is the first, and those
that are passed over are distinct forbidden names.
-/

namespace ProofTutor.Naming

theorem numeralInjective {head : String} {m n : Nat}
    (same : head ++ toString m = head ++ toString n) : m = n := by
  have chars := congrArg String.toList same
  rw [String.toList_append, String.toList_append] at chars
  exact Nat.repr_injective (String.toList_inj.mp (List.append_cancel_left chars))

theorem candidateFree {candidate : Nat → String} (injective : Function.Injective candidate)
    (forbidden : List String) :
    ∃ n ∈ List.range (forbidden.length + 1), candidate n ∉ forbidden := by
  by_contra taken
  simp only [not_exists, not_and, not_not] at taken
  have distinct : ((List.range (forbidden.length + 1)).map candidate).Nodup :=
    List.Nodup.map injective List.nodup_range
  have length := (List.subperm_of_subset distinct (List.forall_mem_map.mpr taken)).length_le
  rw [List.length_map, List.length_range] at length
  omega

theorem hypothesisInjective : Function.Injective hypothesis :=
  fun _ _ => numeralInjective

theorem laterInjective (start : Nat) : Function.Injective fun n => hypothesis (start + n) :=
  fun _ _ same => Nat.add_left_cancel (hypothesisInjective same)

/-! ### Fresh names -/

def candidate (hint : String) : (doublePrime : Bool) → Nat → String
  | _, 0 => hint
  | _, 1 => hint ++ "'"
  | true, 2 => hint ++ "''"
  | true, k + 3 => numbered hint k
  | false, k + 2 => numbered hint k

structure First (candidate : Nat → String) (forbidden : List String) (k : Nat) : Prop where
  free : candidate k ∉ forbidden
  taken : ∀ j < k, candidate j ∈ forbidden

theorem candidateCases (hint : String) (doublePrime : Bool) (k : Nat) :
    candidate hint doublePrime k ∈ primes hint doublePrime ∨
      ∃ n, candidate hint doublePrime k = numbered hint n := by
  match doublePrime, k with
  | true, 0 | true, 1 | true, 2 | false, 0 | false, 1 => exact .inl (by simp [candidate, primes])
  | true, k + 3 | false, k + 2 => exact .inr ⟨k, by simp [candidate]⟩

theorem candidatesListed (hint : String) (doublePrime : Bool) (n : Nat) :
    (List.range ((primes hint doublePrime).length + n)).map (candidate hint doublePrime) =
      primes hint doublePrime ++ (List.range n).map (numbered hint) := by
  rw [List.range_add, List.map_append, List.map_map]
  have shifted : candidate hint doublePrime ∘ ((primes hint doublePrime).length + ·) =
      numbered hint := by
    funext k
    cases doublePrime <;> simp [candidate, primes, Nat.add_comm _ k]
  rw [shifted]
  cases doublePrime <;> rfl

theorem candidateInjective (hint : String) (doublePrime : Bool) :
    Function.Injective (candidate hint doublePrime) := by
  -- past the hint the candidates do not depend on it
  have tail (k : Nat) : candidate hint doublePrime k = hint ++ candidate "" doublePrime k := by
    cases doublePrime <;> rcases k with _ | _ | _ | k <;>
      simp [candidate, numbered, String.append_assoc]
  have unprimed {n : Nat} : "'" ≠ "_" ++ n.repr ∧ "''" ≠ "_" ++ n.repr := by
    constructor <;> intro same <;> simpa using congrArg String.toList same
  intro j k same
  rw [tail, tail, String.append_right_inj] at same
  cases doublePrime <;> rcases j with _ | _ | _ | j <;> rcases k with _ | _ | _ | k <;>
    simp [candidate, numbered, unprimed, unprimed.1.symm, unprimed.2.symm] at same ⊢ <;>
    exact same

theorem firstFound {candidate : Nat → String} {forbidden : List String} {n i : Nat} (inside : i < n)
    (free : candidate i ∉ forbidden) : ∃ k,
      ((List.range n).map candidate).find? (!forbidden.contains ·) = some (candidate k) ∧
        First candidate forbidden k := by
  rw [List.find?_map]
  cases found : (List.range n).find? ((!forbidden.contains ·) ∘ candidate) with
  | none =>
    have taken := List.find?_eq_none.mp found i (List.mem_range.mpr inside)
    exact absurd taken (by simpa using free)
  | some k =>
    obtain ⟨own, _, before⟩ := List.find?_range_eq_some.mp found
    exact ⟨k, rfl, by simpa using own, fun j earlier => by simpa using before j earlier⟩

theorem freshNameFirst (hint : String) (forbidden : List String) (doublePrime : Bool) :
    ∃ k, freshName hint forbidden doublePrime = candidate hint doublePrime k ∧
      First (candidate hint doublePrime) forbidden k := by
  obtain ⟨i, mem, free⟩ := candidateFree (candidateInjective hint doublePrime) forbidden
  have inside : i < (primes hint doublePrime).length + (forbidden.length + 1) :=
    Nat.lt_add_left _ (List.mem_range.mp mem)
  obtain ⟨k, found, first⟩ := firstFound inside free
  refine ⟨k, ?_, first⟩
  rw [candidatesListed, List.find?_append] at found
  rw [freshName]
  cases primed : (primes hint doublePrime).find? (!forbidden.contains ·) with
  | some name =>
    rw [primed] at found
    exact Option.some.inj found
  | none =>
    rw [primed, Option.none_or] at found
    dsimp only
    rw [found, Option.getD_some]

theorem freshNameNew (hint : String) (forbidden : List String) (doublePrime : Bool) :
    freshName hint forbidden doublePrime ∉ forbidden := by
  obtain ⟨k, same, first⟩ := freshNameFirst hint forbidden doublePrime
  rw [same]
  exact first.free

theorem freshNameFree {hint : String} {forbidden : List String} (free : hint ∉ forbidden)
    (doublePrime : Bool) : freshName hint forbidden doublePrime = hint := by
  have start : candidate hint doublePrime 0 = hint := by cases doublePrime <;> rfl
  obtain ⟨k, same, first⟩ := freshNameFirst hint forbidden doublePrime
  cases k with
  | zero => rw [same, start]
  | succ k => exact absurd (start ▸ first.taken 0 (Nat.succ_pos k)) free

theorem freshNameCandidate (hint : String) (forbidden : List String) (doublePrime : Bool) :
    freshName hint forbidden doublePrime ∈ primes hint doublePrime ∨
      ∃ n, freshName hint forbidden doublePrime = numbered hint n := by
  obtain ⟨k, same, _⟩ := freshNameFirst hint forbidden doublePrime
  rw [same]
  exact candidateCases hint doublePrime k

theorem freshNameMarked (hint : String) (forbidden : List String) (doublePrime : Bool) :
    freshName hint forbidden doublePrime = hint ∨
      ∃ mark ∈ ['\'', '_'], mark ∈ (freshName hint forbidden doublePrime).toList := by
  rcases freshNameCandidate hint forbidden doublePrime with primed | ⟨n, same⟩
  · have each : ∀ name ∈ primes hint doublePrime, name = hint ∨ '\'' ∈ name.toList := by
      cases doublePrime <;> simp [primes]
    exact (each _ primed).imp_right fun marked => ⟨'\'', by simp, marked⟩
  · exact .inr ⟨'_', by simp, by simp [same, numbered]⟩

theorem primedNameNew (name : String) (forbidden : List String) :
    primedName name forbidden ∉ forbidden :=
  fun inside => freshNameNew name (name :: forbidden) true (List.mem_cons_of_mem _ inside)

theorem hypothesisCharacters (k : Nat) : (hypothesis k).toList = 'H' :: Nat.toDigits 10 k := by
  rw [hypothesis, String.toList_append, Text.numeralCharacters]
  rfl

theorem hypothesisWhole {mark : Char} (letter : mark ≠ 'H') (digit : mark.isDigit = false) (k : Nat) :
    mark ∉ (hypothesis k).toList := by
  rw [hypothesisCharacters, List.mem_cons, not_or]
  refine ⟨letter, fun among => ?_⟩
  cases digit.symm.trans (Text.digitsAreDigits k mark among)

structure Next (forbidden : List String) (counter k : Nat) : Prop where
  later : counter < k
  free : hypothesis k ∉ forbidden
  skipped : ∀ j, counter < j → j < k → hypothesis j ∈ forbidden

theorem hypothesisNameNext (forbidden : List String) (counter : Nat) :
    ∃ k, hypothesisName forbidden counter = (hypothesis k, k) ∧ Next forbidden counter k := by
  obtain ⟨n, among, new⟩ := candidateFree (laterInjective (counter + 1)) forbidden
  cases found : ((List.range (forbidden.length + 1)).map (counter + 1 + ·)).find? fun k =>
      !forbidden.contains (hypothesis k) with
  | none =>
    have taken := List.find?_eq_none.mp found _ (List.mem_map_of_mem among)
    exact absurd taken (by simpa using new)
  | some k =>
    refine ⟨k, by simp only [hypothesisName, found, Option.getD_some], ?_⟩
    rw [← List.range'_eq_map_range] at found
    obtain ⟨free, inside, skipped⟩ := List.find?_range'_eq_some.mp found
    exact
      { later := (List.mem_range'_1.mp inside).1
        free := by simpa using free
        skipped := fun j later before => by simpa using skipped j later before }

theorem hypothesisNameNew (forbidden : List String) (counter : Nat) :
    (hypothesisName forbidden counter).1 ∉ forbidden := by
  obtain ⟨k, name, next⟩ := hypothesisNameNext forbidden counter
  rw [name]
  exact next.free

theorem hypothesisNameAfter (forbidden : List String) (counter : Nat) :
    counter < (hypothesisName forbidden counter).2 := by
  obtain ⟨k, name, next⟩ := hypothesisNameNext forbidden counter
  rw [name]
  exact next.later

theorem chooseNameNew (naming : Naming) (type : Term) (proverName : Option String)
    (siblings forbidden : List String) :
    naming.chooseName type proverName siblings forbidden ∉ forbidden := by
  rw [chooseName]
  split <;> exact freshNameNew _ _ _

theorem nameOfNew (naming : Naming) (outer : List String) (scope : List Scoped) (binder : Term) :
    nameOf naming outer scope binder ∉ outer ∧ nameOf naming outer scope binder ∉ scope.map (·.name) ∧
      nameOf naming outer scope binder ∉ (binder.children[2]?.getD Term.untyped).localNames := by
  have new := chooseNameNew naming (binder.children[0]?.getD Term.untyped)
    (binder.children[1]?.bind (·.name?))
    ((scope.filter fun s => s.type.alphaEq (binder.children[0]?.getD Term.untyped)).map (·.name))
    (outer ++ scope.map (·.name) ++ (binder.children[2]?.getD Term.untyped).localNames)
  simp only [List.mem_append, not_or] at new
  exact ⟨new.1.1,new.1.2,new.2⟩

/-! ### How far the searches go -/

theorem firstWithin {candidate : Nat → String} (injective : Function.Injective candidate)
    {forbidden : List String} {k : Nat} (first : First candidate forbidden k) :
    k ≤ forbidden.toFinset.card := by
  have passed : (Finset.range k).image candidate ⊆ forbidden.toFinset := by
    intro name mem
    obtain ⟨j, earlier, rfl⟩ := Finset.mem_image.mp mem
    exact List.mem_toFinset.mpr (first.taken j (Finset.mem_range.mp earlier))
  calc k = ((Finset.range k).image candidate).card := by
        rw [Finset.card_image_of_injective _ injective, Finset.card_range]
    _ ≤ forbidden.toFinset.card := Finset.card_le_card passed

theorem nextFirst {forbidden : List String} {counter k : Nat} (next : Next forbidden counter k) :
    First (fun n => hypothesis (counter + 1 + n)) forbidden (k - (counter + 1)) := by
  have later := next.later
  refine ⟨?_, fun j earlier => next.skipped _ (by omega) (by omega)⟩
  rw [Nat.add_sub_of_le later]
  exact next.free

theorem nextWithin {forbidden : List String} {counter k : Nat} (next : Next forbidden counter k) :
    k ≤ counter + forbidden.toFinset.card + 1 := by
  have within := firstWithin (laterInjective (counter + 1)) (nextFirst next)
  omega

/-- Both searches end with the first free candidate of an endless sequence, the fresh name having
looked at `k + 1` candidates. -/
theorem searchesEndFirstFree :
    (∀ (hint : String) (forbidden : List String) (doublePrime : Bool), ∃ k,
      freshName hint forbidden doublePrime = candidate hint doublePrime k ∧
        First (candidate hint doublePrime) forbidden k ∧
        k + 1 ≤ forbidden.toFinset.card + 1) ∧
    ∀ (forbidden : List String) (counter : Nat), ∃ k,
      hypothesisName forbidden counter = (hypothesis k, k) ∧ Next forbidden counter k ∧
        k ≤ counter + forbidden.toFinset.card + 1 := by
  constructor
  · intro hint forbidden doublePrime
    obtain ⟨k, name, first⟩ := freshNameFirst hint forbidden doublePrime
    have within := firstWithin (candidateInjective hint doublePrime) first
    exact ⟨k,name,first,Nat.succ_le_succ within⟩
  · intro forbidden counter
    obtain ⟨k, name, next⟩ := hypothesisNameNext forbidden counter
    exact ⟨k,name,next,nextWithin next⟩

end ProofTutor.Naming
