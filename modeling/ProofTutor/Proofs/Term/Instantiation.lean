import ProofTutor.Proofs.Term.Twins

/-! Putting a value in the place of a binder's variable. Replacement looks for terms that are equal to
the variable without regard to the binders around them; where no binder within the body has the number
of the variable, these are its occurrences, and a value without free numbers means the same in each of
these places. So instantiation does not depend on the choice of bound variables. -/
namespace ProofTutor.Term

theorem replaceInMap (old new : Term) (ts : List Term) :
    replaceIn old new ts = ts.map (replace old new) := by
  induction ts with
  | nil => rfl
  | cons t ts ih => rw [replaceIn, ih, List.map_cons]

theorem replaceNode (old new t : Term) : replace old new t =
    if t.alphaEq old then new else { t with children := t.children.map (replace old new) } := by
  obtain ⟨kind, info, children, type?⟩ := t
  rw [replace, replaceInMap]

def Occurrence (n : Nat) (t : Term) : Prop :=
  t.kind = .boundVar ∧ t.number? = some n

theorem equalVariable {n : Nat} {x t : Term} (occurs : x.Occurrence n) (childless : x.children = [])
    (leaves : t.LeafVariables) : t.alphaEq x = true ↔ t.Occurrence n := by
  obtain ⟨own, number⟩ := occurs
  rw [alphaEq, alphaEqNode, childless]
  constructor
  · intro equal
    rw [Bool.and_eq_true_iff, Bool.and_eq_true_iff, own, beq_iff_eq] at equal
    obtain ⟨⟨bound, label⟩, _⟩ := equal
    obtain ⟨⟨l, number'⟩, _⟩ := leaves.own bound
    have same : l = n := by
      simpa [sameLabel, bound, number, number', sameBound] using label
    exact ⟨bound,same ▸ number'⟩
  · intro occurrence
    obtain ⟨bound, number'⟩ := occurrence
    rw [(leaves.own bound).2]
    simp [own, bound, sameLabel, number, number', sameBound, alphaEqAll]

structure Replaceable (n : Nat) (t : Term) : Prop where
  labelled : t.Labelled
  leaves : t.LeafVariables
  unbound : n ∉ t.boundNumbers

theorem Replaceable.child {n : Nat} {t u : Term} (replaceable : t.Replaceable n)
    (mem : u ∈ t.children) : u.Replaceable n where
  labelled := replaceable.labelled.child mem
  leaves := replaceable.leaves.child mem
  unbound := fun inside => replaceable.unbound
    ((boundBelow mem).subset (List.mem_append_right _ inside))

theorem Replaceable.binder {n l : Nat} {t : Term} (replaceable : t.Replaceable n)
    (binds : t.boundNumber? = some l) : l ≠ n := by
  intro same
  subst same
  refine replaceable.unbound ?_
  rw [boundNumbersNode, bindsLabelled replaceable.labelled.own, binds]
  exact List.mem_cons_self

section Replaced
variable {n : Nat} {x v : Term} (occurs : x.Occurrence n) (childless : x.children = [])
include occurs childless

theorem replaceOccurrence {t : Term} (leaves : t.LeafVariables) (occurrence : t.Occurrence n) :
    replace x v t = v := by
  rw [replaceNode, if_pos ((equalVariable occurs childless leaves).mpr occurrence)]

theorem replaceOther {t : Term} (leaves : t.LeafVariables) (other : ¬ t.Occurrence n) :
    replace x v t = { t with children := t.children.map (replace x v) } := by
  rw [replaceNode, if_neg fun equal => other ((equalVariable occurs childless leaves).mp equal)]

theorem replacedBinder {t : Term} (replaceable : t.Replaceable n) :
    ({ t with children := t.children.map (replace x v) } : Term).boundNumber? = t.boundNumber? := by
  rw [boundNumber?, boundNumber?]
  cases bound : t.boundVar? with
  | none =>
    rw [boundVar?] at bound ⊢
    dsimp only
    split at bound
    · rename_i binder
      rw [if_pos binder, List.getElem?_map, bound]
      rfl
    · rename_i binder
      rw [if_neg binder]
  | some u =>
    have own := replaceable.labelled.own.binds u bound
    rw [boundVar?] at bound
    split at bound
    · rename_i binder
      have mem := List.mem_of_getElem? bound
      have number : t.boundNumber? = u.number? := (bindsOf binder bound).1
      have other : ¬ u.Occurrence n := fun occurrence =>
        replaceable.binder (number.trans occurrence.2) rfl
      rw [boundVar?]
      dsimp only
      rw [if_pos binder, List.getElem?_map, bound, Option.map_some, Option.bind_some,
        replaceOther occurs childless (replaceable.leaves.child mem) other]
      rfl
    · cases bound

theorem replacedFree (closed : v.freeNumbers = []) {t : Term} (leaves : t.LeafVariables) :
    n ∉ (replace x v t).freeNumbers := by
  induction t using nodeInduction with
  | node kind info children type? ih =>
    by_cases occurrence : Occurrence n ⟨kind,info,children,type?⟩
    · rw [replaceOccurrence occurs childless leaves occurrence, closed]
      exact List.not_mem_nil
    · rw [replaceOther occurs childless leaves occurrence, freeNumbers, freeNumbersOfFlat]
      intro free
      rcases List.mem_append.mp free with own | below
      · split at own
        · rename_i bound
          exact occurrence ⟨bound,Option.mem_toList.mp own⟩
        · cases own
      · obtain ⟨u, mem, inside⟩ := List.mem_flatMap.mp (List.mem_filter.mp below).1
        obtain ⟨t, child, rfl⟩ := List.mem_map.mp mem
        exact ih t child (leaves.child child) inside

end Replaced

/-! ### Equal bodies -/

variable {m n : Nat} {inner : List (Nat × Nat)}

theorem sameBoundOutermost (apart : ∀ p ∈ inner, p.1 ≠ m ∧ p.2 ≠ n) {l r : Nat}
    (same : sameBound (inner ++ [(m,n)]) l r = true) :
    (l = m ↔ r = n) ∧ (l ≠ m → sameBound inner l r = true) := by
  induction inner with
  | nil =>
    rw [List.nil_append, sameBoundPair] at same
    split at same
    · obtain ⟨rfl, rfl⟩ := of_decide_eq_true same
      exact ⟨iff_of_true rfl rfl,fun other => absurd rfl other⟩
    · rename_i other
      rw [not_or] at other
      exact ⟨iff_of_false (Ne.symm other.1) (Ne.symm other.2),fun _ => same⟩
  | cons p inner ih =>
    obtain ⟨first, others⟩ := List.forall_mem_cons.mp apart
    rw [List.cons_append, sameBoundPair] at same
    rw [sameBoundPair]
    split at same
    · rename_i here
      obtain ⟨rfl, rfl⟩ := of_decide_eq_true same
      exact ⟨iff_of_false first.1 first.2,fun _ => by rw [if_pos here]; exact same⟩
    · rename_i other
      rw [if_neg other]
      exact ih others same

theorem labelOutermost (apart : ∀ p ∈ inner, p.1 ≠ m ∧ p.2 ≠ n) {s t : Term} (kind : s.kind = t.kind)
    (left : s.OwnLabels) (right : t.OwnLabels) (label : sameLabel (inner ++ [(m,n)]) s t = true) :
    (s.Occurrence m ↔ t.Occurrence n) ∧ (¬ s.Occurrence m → sameLabel inner s t = true) := by
  by_cases bound : s.kind = .boundVar
  · obtain ⟨l, number⟩ := Option.isSome_iff_exists.mp (left.numbered bound)
    obtain ⟨r, number'⟩ := Option.isSome_iff_exists.mp (right.numbered (kind ▸ bound))
    rw [sameLabel, bound, number, number'] at label
    obtain ⟨both, further⟩ := sameBoundOutermost apart label
    rw [Occurrence, Occurrence, sameLabel, ← kind, bound, number, number', Option.some.injEq,
      Option.some.injEq, and_iff_right rfl, and_iff_right rfl]
    exact ⟨both,further⟩
  · refine ⟨iff_of_false (fun occurrence => bound occurrence.1) fun occurrence =>
      bound (kind.trans occurrence.1),fun _ => ?_⟩
    rw [← label, sameLabel, sameLabel]
    split
    · contradiction
    all_goals rfl

section Bodies
variable {x y v w : Term} (first : x.Occurrence m) (childless : x.children = [])
  (second : y.Occurrence n) (childless' : y.children = [])
  (closed : v.freeNumbers = []) (leaves : w.LeafVariables) (alike : v.alphaEq w = true)
include first childless second childless' closed leaves alike

theorem alphaEqReplaced (s : Term) : ∀ {t : Term} {inner : List (Nat × Nat)}, s.Replaceable m →
    t.Replaceable n → (∀ p ∈ inner, p.1 ≠ m ∧ p.2 ≠ n) → alphaEqIn (inner ++ [(m,n)]) s t = true →
      alphaEqIn inner (replace x v s) (replace y w t) = true := by
  induction s using nodeInduction with
  | node kind info children type? ih =>
    intro t inner left right apart equal
    have same := alphaEqKind equal
    rw [alphaEqNode, Bool.and_eq_true_iff, Bool.and_eq_true_iff] at equal
    obtain ⟨⟨_, label⟩, all⟩ := equal
    obtain ⟨both, further⟩ := labelOutermost apart same left.labelled.own right.labelled.own label
    by_cases occurrence : Occurrence m ⟨kind,info,children,type?⟩
    -- The values are closed, so they are equal under any pairs, those of the binders above included.
    · rw [replaceOccurrence first childless left.leaves occurrence,
        replaceOccurrence second childless' right.leaves (both.mp occurrence)]
      exact closedAnywhere closed leaves alike inner
    · have binders : pairBinders
          ({ kind, info, children := children.map (replace x v), type? } : Term)
          ({ t with children := t.children.map (replace y w) } : Term) inner =
            pairBinders ⟨kind,info,children,type?⟩ t inner := by
        rw [pairBinders, pairBinders, replacedBinder second childless' right]
        rw [replacedBinder first childless left]
      rw [pairBindersAppend, alphaEqAllPairs] at all
      rw [replaceOther first childless left.leaves occurrence,
        replaceOther second childless' right.leaves fun other => occurrence (both.mpr other),
        alphaEqNode, Bool.and_eq_true_iff, Bool.and_eq_true_iff, binders, alphaEqAllPairs]
      refine ⟨⟨beq_iff_eq.mpr same,further occurrence⟩,?_⟩
      dsimp only
      rw [List.forall₂_map_left_iff, List.forall₂_map_right_iff]
      refine relatedImp (fun a inside b among pair => ?_) all
      refine ih a inside (left.child inside) (right.child among) (fun p within => ?_) pair
      rcases pairBindersMem within with ⟨number, number'⟩ | around
      · exact ⟨left.binder number,right.binder number'⟩
      · exact apart p around

end Bodies

structure Instantiable (t : Term) : Prop where
  binder : t.kind.isBinder = true
  three : t.children.length = 3
  labelled : t.Labelled
  leaves : t.LeafVariables
  once : ∀ body ∈ t.body?, ∀ n ∈ t.boundNumber?, n ∉ body.boundNumbers

structure Value (t : Term) : Prop where
  labelled : t.Labelled
  leaves : t.LeafVariables
  closed : t.freeNumbers = []

theorem Instantiable.parts {t : Term} (instantiable : t.Instantiable) : ∃ n type x body,
    t.children = [type,x,body] ∧ t.boundVar? = some x ∧ t.body? = some body ∧
      t.boundNumber? = some n ∧ x.Occurrence n ∧ x.children = [] ∧ body.Replaceable n := by
  obtain ⟨type, x, body, children⟩ := List.length_eq_three.mp instantiable.three
  have bound : t.boundVar? = some x := by rw [boundVar?, if_pos instantiable.binder, children]; rfl
  have inside : t.body? = some body := by rw [body?, if_pos instantiable.binder, children]; rfl
  have kind := instantiable.labelled.own.binds x bound
  have mem : x ∈ t.children := by simp [children]
  have mem' : body ∈ t.children := by simp [children]
  obtain ⟨⟨n, number⟩, childless⟩ := (instantiable.leaves.child mem).own kind
  have binds : t.boundNumber? = some n := by rw [boundNumber?, bound]; exact number
  exact ⟨n,type,x,body,children,bound,inside,binds,⟨kind,number⟩,childless,
    instantiable.labelled.child mem',instantiable.leaves.child mem',
    instantiable.once body inside n binds⟩

/-- Equal binders give equal terms for equal values, and the variable is gone from both. -/
theorem instantiatedAlike {a b v w : Term} (left : a.Instantiable) (right : b.Instantiable)
    (equal : a.alphaEq b = true) (first : v.Value) (second : w.Value) (alike : v.alphaEq w = true) :
    ∃ m n s t, a.boundNumber? = some m ∧ b.boundNumber? = some n ∧
      a.instantiate? v = some s ∧ b.instantiate? w = some t ∧ s.alphaEq t = true ∧
        m ∉ s.freeNumbers ∧ n ∉ t.freeNumbers := by
  obtain ⟨m, type, x, body, children, bound, inside, number, own, childless, replaceable⟩ := left.parts
  obtain ⟨n, type', y, body', children', bound', inside', number', own', childless', replaceable'⟩ :=
    right.parts
  rw [alphaEq, alphaEqNode, Bool.and_eq_true_iff, pairBinders, number, number', children,
    children'] at equal
  have bodies : alphaEqIn ([] ++ [(m,n)]) body body' = true := by
    simp only [alphaEqAll, Bool.and_eq_true_iff] at equal
    exact equal.2.2.2.1
  refine ⟨m,n,replace x v body,replace y w body',number,number',?_,?_,?_,?_,?_⟩
  · rw [instantiate?, bound, inside]
    rfl
  · rw [instantiate?, bound', inside']
    rfl
  · exact alphaEqReplaced own childless own' childless' first.closed second.leaves alike body
      replaceable replaceable' (by simp) bodies
  · exact replacedFree own childless first.closed replaceable.leaves
  · exact replacedFree own' childless' second.closed replaceable'.leaves

def elementOfOwn (outer inner : Nat) : Term :=
  bind .universal (boundVar "x" outer sort)
    (bind .existential (boundVar "y" inner (boundVar "x" outer sort))
      (binary .equals (boundVar "x" outer sort) (boundVar "y" inner sort)))

def allOfConstant (number : Nat) : Term :=
  bind .universal (boundVar "u" number sort)
    (binary .belongs (boundVar "u" number sort) (localConstant "c" "0.c" sort))

theorem instantiatedAlikeCrossed :
    (elementOfOwn 0 1).Instantiable ∧ (elementOfOwn 1 0).Instantiable ∧
      (elementOfOwn 0 1).alphaEq (elementOfOwn 1 0) = true ∧
      (allOfConstant 0).Value ∧ (allOfConstant 1).Value ∧
      (allOfConstant 0).alphaEq (allOfConstant 1) = true ∧
      ∃ m n s t, (elementOfOwn 0 1).boundNumber? = some m ∧ (elementOfOwn 1 0).boundNumber? = some n ∧
        (elementOfOwn 0 1).instantiate? (allOfConstant 0) = some s ∧
        (elementOfOwn 1 0).instantiate? (allOfConstant 1) = some t ∧ s.alphaEq t = true ∧
          m ∉ s.freeNumbers ∧ n ∉ t.freeNumbers := by
  have left : (elementOfOwn 0 1).Instantiable :=
    ⟨rfl,rfl,by decide,by decide,by decide⟩
  have right : (elementOfOwn 1 0).Instantiable := ⟨rfl,rfl,by decide,by decide,by decide⟩
  have first : (allOfConstant 0).Value := ⟨by decide,by decide,rfl⟩
  have second : (allOfConstant 1).Value := ⟨by decide,by decide,rfl⟩
  exact ⟨left,right,rfl,first,second,rfl,instantiatedAlike left right rfl first second rfl⟩

end ProofTutor.Term
