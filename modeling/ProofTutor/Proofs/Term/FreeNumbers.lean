import Mathlib.Data.List.Forall2
import ProofTutor.Proofs.Term.Nameless

/-!
The numbers that a term binds and those that occur free in it. Equality to a term without free numbers
does not depend on the binders around the two.
-/
namespace ProofTutor.Term

def binds? (t : Term) : Option Nat :=
  (t.boundVar?.filter (·.kind == .boundVar)).bind (·.number?)

def boundNumbers (t : Term) : List Nat :=
  t.nodes.filterMap binds?

mutual

def freeNumbers : Term → List Nat
  | ⟨kind, info, children, type?⟩ =>
    let t : Term := ⟨kind, info, children, type?⟩
    (if kind = .boundVar then info.number.toList else []) ++
      (freeNumbersOf children).filter fun n => t.binds? ≠ some n

def freeNumbersOf : List Term → List Nat
  | [] => []
  | t :: ts => freeNumbers t ++ freeNumbersOf ts

end

theorem freeNumbersOfFlat (ts : List Term) : freeNumbersOf ts = ts.flatMap freeNumbers := by
  induction ts with
  | nil => rfl
  | cons t ts ih => rw [freeNumbersOf, ih, List.flatMap_cons]

theorem freeOwn {t : Term} {n : Nat} (bound : t.kind = .boundVar) (number : t.number? = some n) :
    n ∈ t.freeNumbers := by
  obtain ⟨kind, info, children, type?⟩ := t
  rw [number?] at number
  dsimp only at bound number
  rw [freeNumbers, if_pos bound, number]
  simp

theorem freeBelow {t u : Term} {n : Nat} (mem : u ∈ t.children) (free : n ∈ u.freeNumbers) :
    t.binds? = some n ∨ n ∈ t.freeNumbers := by
  obtain ⟨kind, info, children, type?⟩ := t
  refine or_iff_not_imp_left.mpr fun other => ?_
  rw [freeNumbers, freeNumbersOfFlat]
  refine List.mem_append_right _ (List.mem_filter.mpr ⟨List.mem_flatMap.mpr ⟨u,mem,free⟩,?_⟩)
  simpa using other

theorem boundNumbersNode (t : Term) :
    t.boundNumbers = t.binds?.toList ++ t.children.flatMap boundNumbers := by
  have below : (t.children.flatMap nodes).filterMap binds? = t.children.flatMap boundNumbers :=
    List.filterMap_flatMap
  rw [boundNumbers, nodesNode, List.filterMap_cons, ← below]
  cases t.binds? <;> rfl

theorem boundBelow {t u : Term} (mem : u ∈ t.children) :
    (t.binds?.toList ++ u.boundNumbers).Sublist t.boundNumbers := by
  rw [boundNumbersNode t]
  exact (List.sublist_flatten_of_mem (List.mem_map_of_mem mem)).append_left _

theorem distinctBelow {partners : List Nat} {t u : Term} (mem : u ∈ t.children)
    (distinct : (partners ++ t.boundNumbers).Nodup) : (partners ++ u.boundNumbers).Nodup :=
  distinct.sublist (((List.sublist_append_right _ _).trans (boundBelow mem)).append_left _)

theorem distinctUnder {partners : List Nat} {t u : Term} {n : Nat} (mem : u ∈ t.children)
    (binds : t.binds? = some n) (distinct : (partners ++ t.boundNumbers).Nodup) :
    (n :: partners ++ u.boundNumbers).Nodup := by
  have below := boundBelow mem
  rw [binds] at below
  exact List.nodup_middle.mp (distinct.sublist (below.append_left _))

theorem bindsSome {t : Term} {n : Nat} (binds : t.binds? = some n) : t.kind.isBinder = true ∧
    ∃ v, t.children[1]? = some v ∧ v.kind = .boundVar ∧ v.number? = some n := by
  obtain ⟨v, filtered, number⟩ := Option.bind_eq_some_iff.mp binds
  obtain ⟨bound, own⟩ := Option.filter_eq_some_iff.mp filtered
  rw [boundVar?] at bound
  split at bound
  · rename_i binder
    exact ⟨binder,v,bound,eq_of_beq own,number⟩
  · cases bound

theorem bindsOf {t v : Term} (binder : t.kind.isBinder = true) (second : t.children[1]? = some v) :
    t.boundNumber? = v.number? ∧ (v.kind = .boundVar → t.binds? = v.number?) := by
  have bound : t.boundVar? = some v := by rw [boundVar?, if_pos binder, second]
  refine ⟨by rw [boundNumber?, bound]; rfl,fun own => ?_⟩
  rw [binds?, bound, Option.filter_some, if_pos (beq_iff_eq.mpr own)]
  rfl

/-! ### Equality under more binders -/

theorem alphaEqAllPairs {pairs : List (Nat × Nat)} {as bs : List Term} :
    alphaEqAll pairs as bs = true ↔ List.Forall₂ (fun a b => alphaEqIn pairs a b = true) as bs := by
  induction as generalizing bs with
  | nil => cases bs <;> simp [alphaEqAll]
  | cons a as ih => cases bs <;> simp [alphaEqAll, ih]

theorem partnerAt {α β : Type} {R : α → β → Prop} {as : List α} {bs : List β}
    (related : List.Forall₂ R as bs) {i : Nat} {a : α} (found : as[i]? = some a) :
    ∃ b, bs[i]? = some b ∧ R a b := by
  induction related generalizing i with
  | nil => simp at found
  | cons first others ih =>
    cases i with
    | zero =>
      cases Option.some.inj found
      exact ⟨_,rfl,first⟩
    | succ i => exact ih found

theorem relatedImp {α β : Type} {R S : α → β → Prop} {as : List α} {bs : List β}
    (imp : ∀ a ∈ as, ∀ b ∈ bs, R a b → S a b) (related : List.Forall₂ R as bs) :
    List.Forall₂ S as bs := by
  induction related with
  | nil => exact .nil
  | cons first others ih =>
    exact .cons (imp _ List.mem_cons_self _ List.mem_cons_self first) (ih fun a inside b among =>
      imp a (List.mem_cons_of_mem _ inside) b (List.mem_cons_of_mem _ among))

theorem pairBindersAppend (a b : Term) (inner outer : List (Nat × Nat)) :
    pairBinders a b (inner ++ outer) = pairBinders a b inner ++ outer := by
  rw [pairBinders, pairBinders]
  cases a.boundNumber? <;> cases b.boundNumber? <;> rfl

theorem pairBindersKeeps (a b : Term) (pairs : List (Nat × Nat)) : pairs ⊆ pairBinders a b pairs := by
  rw [pairBinders]
  split
  · exact List.subset_cons_self _ _
  · exact List.Subset.refl _

theorem sameBoundAppend {inner : List (Nat × Nat)} {l : Nat} (inside : l ∈ inner.map Prod.fst)
    (outer : List (Nat × Nat)) (r : Nat) : sameBound (inner ++ outer) l r = sameBound inner l r := by
  induction inner with
  | nil => cases inside
  | cons p inner ih =>
    rw [List.cons_append, sameBoundPair, sameBoundPair]
    by_cases first : p.1 = l
    · simp [first]
    · rw [List.map_cons, List.mem_cons] at inside
      rw [ih (inside.resolve_left (Ne.symm first))]

def LeafVariables (t : Term) : Prop :=
  ∀ u ∈ t.nodes, u.kind = .boundVar → u.number?.isSome ∧ u.children.isEmpty

instance (t : Term) : Decidable t.LeafVariables :=
  inferInstanceAs (Decidable (∀ u ∈ t.nodes, u.kind = .boundVar → u.number?.isSome ∧ u.children.isEmpty))

theorem LeafVariables.child {t u : Term} (leaves : t.LeafVariables) (mem : u ∈ t.children) :
    u.LeafVariables :=
  fun v inside => leaves v (nodesBelow mem inside)

theorem LeafVariables.own {t : Term} (leaves : t.LeafVariables) (bound : t.kind = .boundVar) :
    (∃ n, t.number? = some n) ∧ t.children = [] := by
  obtain ⟨number, childless⟩ := leaves t (by rw [nodesNode]; exact List.mem_cons_self) bound
  exact ⟨Option.isSome_iff_exists.mp number,List.isEmpty_iff.mp childless⟩

theorem alphaEqKind {pairs : List (Nat × Nat)} {a b : Term} (equal : alphaEqIn pairs a b = true) :
    a.kind = b.kind := by
  rw [alphaEqNode, Bool.and_eq_true_iff, Bool.and_eq_true_iff] at equal
  exact eq_of_beq equal.1.1

theorem boundPaired {a b : Term} {inner : List (Nat × Nat)} {l : Nat} (same : a.kind = b.kind)
    (below : List.Forall₂ (fun a b => alphaEqIn inner a b = true) a.children b.children)
    (leaves : b.LeafVariables) (binds : a.binds? = some l) (pairs : List (Nat × Nat)) :
    ∃ r, pairBinders a b pairs = (l,r) :: pairs := by
  obtain ⟨binder, v, second, own, number⟩ := bindsSome binds
  obtain ⟨w, second', equal⟩ := partnerAt below second
  obtain ⟨⟨r, number'⟩, _⟩ :=
    (leaves.child (List.mem_of_getElem? second')).own ((alphaEqKind equal).symm.trans own)
  refine ⟨r,?_⟩
  rw [pairBinders, (bindsOf binder second).1, (bindsOf (same ▸ binder) second').1, number, number']

theorem sameLabelOuter {inner : List (Nat × Nat)} {a b : Term}
    (inside : a.kind = .boundVar → ∀ l, a.number? = some l → l ∈ inner.map Prod.fst)
    (outer : List (Nat × Nat)) : sameLabel (inner ++ outer) a b = sameLabel inner a b := by
  rw [sameLabel, sameLabel]
  split
  · rename_i bound
    split
    · rename_i l r number number'
      exact sameBoundAppend (inside bound l number) outer r
    · rfl
  all_goals rfl

theorem alphaEqOuter (a : Term) : ∀ {b : Term} {inner : List (Nat × Nat)} (outer : List (Nat × Nat)),
    b.LeafVariables → (∀ l ∈ a.freeNumbers, l ∈ inner.map Prod.fst) →
      alphaEqIn inner a b = true → alphaEqIn (inner ++ outer) a b = true := by
  induction a using nodeInduction with
  | node kind info children type? ih =>
    intro b inner outer leaves inside equal
    have same := alphaEqKind equal
    rw [alphaEqNode, Bool.and_eq_true_iff] at equal ⊢
    obtain ⟨label, all⟩ := equal
    have below := alphaEqAllPairs.mp all
    rw [sameLabelOuter fun bound l number => inside l (freeOwn bound number), pairBindersAppend,
      alphaEqAllPairs]
    refine ⟨label,relatedImp (fun u mem v mem' paired => ?_) below⟩
    refine ih u mem outer (leaves.child mem') (fun l free => ?_) paired
    rcases freeBelow mem free with own | further
    · obtain ⟨r, pair⟩ := boundPaired same below leaves own inner
      rw [pair]
      exact List.mem_cons_self
    · exact List.map_subset _ (pairBindersKeeps _ _ inner) (inside l further)

theorem closedAnywhere {a b : Term} (closed : a.freeNumbers = []) (leaves : b.LeafVariables)
    (equal : a.alphaEq b = true) (pairs : List (Nat × Nat)) : alphaEqIn pairs a b = true := by
  have within : ∀ l ∈ a.freeNumbers, l ∈ ([] : List (Nat × Nat)).map Prod.fst := by simp [closed]
  exact alphaEqOuter a pairs leaves within equal

end ProofTutor.Term
