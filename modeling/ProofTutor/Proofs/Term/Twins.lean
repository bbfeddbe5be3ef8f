import Mathlib.Logic.Relator
import ProofTutor.Proofs.Term.FreeNumbers

/-!
Terms that differ in the numbers of their variables only. Where the numbers correspond one to one, two
terms are equal up to bound variables just when their twins are, although neither pair is closed; and
two equal terms that bind every number once are such twins.
-/
namespace ProofTutor.Term

structure Alike (same : Nat → Nat → Prop) (a b : Term) : Prop where
  kind : a.kind = b.kind
  left : a.OwnLabels
  right : b.OwnLabels
  number : a.kind = .boundVar → ∀ m n, a.number? = some m → b.number? = some n → same m n
  mark : a.kind ≠ .boundVar → a.markIn [] = b.markIn []

inductive Twin (same : Nat → Nat → Prop) : Term → Term → Prop where
  | node {a b : Term} (own : Alike same a b)
      (below : List.Forall₂ (Twin same) a.children b.children) : Twin same a b

variable {same left right : Nat → Nat → Prop}

theorem Twin.alike {a b : Term} : Twin same a b → Alike same a b
  | .node own _ => own

theorem Twin.descend {a b : Term} : Twin same a b → List.Forall₂ (Twin same) a.children b.children
  | .node _ below => below

theorem markOther {t : Term} (other : t.kind ≠ .boundVar) (scope : List Nat) :
    t.markIn scope = t.markIn [] := by
  rw [markIn, markIn]
  split <;> first | contradiction | rfl

theorem labelTwins {ps qs : List (Nat × Nat)} {s s' t t' : Term} (first : Alike left s s')
    (second : Alike right t t') (kind : s.kind = t.kind)
    (agree : ∀ l ∈ s.freeNumbers, ∀ l' r r', left l l' → right r r' →
      sameBound ps l r = sameBound qs l' r') : sameLabel ps s t = sameLabel qs s' t' := by
  have kind' : s'.kind = t'.kind := first.kind.symm.trans (kind.trans second.kind)
  by_cases bound : s.kind = .boundVar
  · obtain ⟨l, number⟩ := Option.isSome_iff_exists.mp (first.left.numbered bound)
    obtain ⟨l', number'⟩ := Option.isSome_iff_exists.mp (first.right.numbered (first.kind ▸ bound))
    obtain ⟨r, other⟩ := Option.isSome_iff_exists.mp (second.left.numbered (kind ▸ bound))
    obtain ⟨r', other'⟩ := Option.isSome_iff_exists.mp
      (second.right.numbered (second.kind ▸ kind ▸ bound))
    have agreed := agree l (freeOwn bound number) l' r r' (first.number bound l l' number number')
      (second.number (kind ▸ bound) r r' other other')
    simp only [sameLabel, ← first.kind, bound, number, number', other, other', agreed]
  · have unbound : t.kind ≠ .boundVar := kind ▸ bound
    have bound' : s'.kind ≠ .boundVar := first.kind ▸ bound
    have unbound' : t'.kind ≠ .boundVar := second.kind ▸ unbound
    rw [Bool.eq_iff_iff, sameLabelMark ps kind first.left second.left,
      sameLabelMark qs kind' first.right second.right, markOther bound, markOther unbound,
      markOther bound', markOther unbound', first.mark bound, second.mark unbound]

theorem bindsLabelled {t : Term} (own : t.OwnLabels) : t.binds? = t.boundNumber? := by
  rw [binds?, boundNumber?]
  cases bound : t.boundVar? with
  | none => rfl
  | some v => rw [Option.filter_some, if_pos (beq_iff_eq.mpr (own.binds v bound))]

theorem Twin.binds {a b : Term} (twin : Twin same a b) :
    (a.boundVar? = none ∧ b.boundVar? = none) ∨
      ∃ m n, same m n ∧ a.boundNumber? = some m ∧ b.boundNumber? = some n := by
  rw [boundNumber?, boundNumber?, boundVar?, boundVar?, ← twin.alike.kind]
  by_cases binder : a.kind.isBinder = true
  · rw [if_pos binder, if_pos binder]
    cases second : a.children[1]? with
    | none =>
      have length := List.Forall₂.length_eq twin.descend
      rw [List.getElem?_eq_none_iff] at second
      rw [List.getElem?_eq_none (length ▸ second)]
      exact .inl ⟨rfl,rfl⟩
    | some v =>
      obtain ⟨w, second', pair⟩ := partnerAt twin.descend second
      have own : v.kind = .boundVar :=
        twin.alike.left.binds v (by rw [boundVar?, if_pos binder, second]; rfl)
      obtain ⟨m, number⟩ := Option.isSome_iff_exists.mp (pair.alike.left.numbered own)
      obtain ⟨n, number'⟩ := Option.isSome_iff_exists.mp
        (pair.alike.right.numbered (pair.alike.kind ▸ own))
      exact .inr ⟨m,n,pair.alike.number own m n number number',number,by rw [second']; exact number'⟩
  · rw [if_neg binder, if_neg binder]
    exact .inl ⟨rfl,rfl⟩

/-! ### Equality of twins -/

theorem Twin.paired {s s' t t' : Term} (first : Twin left s s') (second : Twin right t t')
    (kind : s.kind = t.kind) (length : s.children.length = t.children.length)
    (ps qs : List (Nat × Nat)) :
    (s.binds? = none ∧ pairBinders s t ps = ps ∧ pairBinders s' t' qs = qs) ∨
      ∃ m m' n n', left m m' ∧ right n n' ∧ s.binds? = some m ∧
        pairBinders s t ps = (m,n) :: ps ∧ pairBinders s' t' qs = (m',n') :: qs := by
  rw [bindsLabelled first.alike.left, pairBinders, pairBinders]
  rcases first.binds with ⟨free, free'⟩ | ⟨m, m', pair, number, number'⟩
  · simp [boundNumber?, free, free']
  · rcases second.binds with ⟨free, _⟩ | ⟨n, n', pair', other, other'⟩
    · have missing : s.boundVar? = none := by
        simpa [free] using boundVarAlike kind length
      rw [boundNumber?, missing] at number
      cases number
    · exact .inr ⟨m,m',n,n',pair,pair',number,by rw [number, other],by rw [number', other']⟩

theorem alphaEqAllTwins {ps qs : List (Nat × Nat)} {as as' bs bs' : List Term}
    (first : List.Forall₂ (Twin left) as as') (second : List.Forall₂ (Twin right) bs bs')
    (each : ∀ a ∈ as, ∀ a' b b', Twin left a a' → Twin right b b' →
      alphaEqIn ps a b = alphaEqIn qs a' b') : alphaEqAll ps as bs = alphaEqAll qs as' bs' := by
  induction first generalizing bs bs' with
  | nil => cases second <;> rfl
  | cons twin twins ih =>
    cases second with
    | nil => rfl
    | cons twin' twins' =>
      obtain ⟨head, tail⟩ := List.forall_mem_cons.mp each
      rw [alphaEqAll, alphaEqAll, head _ _ _ twin twin', ih twins' tail]

theorem sameBoundTwins (one : Relator.BiUnique left) (one' : Relator.BiUnique right)
    {ps qs : List (Nat × Nat)} {m m' n n' l l' r r' : Nat} (own : left m m') (own' : right n n')
    (partner : left l l') (partner' : right r r')
    (further : m ≠ l → sameBound ps l r = sameBound qs l' r') :
    sameBound ((m,n) :: ps) l r = sameBound ((m',n') :: qs) l' r' := by
  have first : m = l ↔ m' = l' := Relator.rel_eq one own partner
  have second : n = r ↔ n' = r' := Relator.rel_eq one' own' partner'
  rw [sameBoundPair, sameBoundPair]
  simp only [first, second]
  split
  · rfl
  · rename_i apart
    exact further fun same => apart (.inl (first.mp same))

theorem alphaEqTwins (one : Relator.BiUnique left) (one' : Relator.BiUnique right) (s : Term) :
    ∀ {s' t t' : Term} {ps qs : List (Nat × Nat)}, Twin left s s' → Twin right t t' →
      (∀ l ∈ s.freeNumbers, ∀ l' r r', left l l' → right r r' →
        sameBound ps l r = sameBound qs l' r') → alphaEqIn ps s t = alphaEqIn qs s' t' := by
  induction s using nodeInduction with
  | node kind info children type? ih =>
    intro s' t t' ps qs first second agree
    rw [alphaEqNode, alphaEqNode, ← first.alike.kind, ← second.alike.kind]
    by_cases same : kind = t.kind
    · rw [labelTwins first.alike second.alike same agree]
      by_cases length : children.length = t.children.length
      · refine congrArg _ (alphaEqAllTwins first.descend second.descend fun u mem u' v v' twin twin' => ?_)
        refine ih u mem twin twin' fun l free l' r r' partner partner' => ?_
        have outside := freeBelow (t := ⟨kind,info,children,type?⟩) mem free
        rcases first.paired second same length ps qs with
          ⟨unbound, pairs, pairs'⟩ | ⟨m, m', n, n', own, own', binds, pairs, pairs'⟩
        · rw [unbound] at outside
          rw [pairs, pairs']
          exact agree l (outside.resolve_left (by simp)) l' r r' partner partner'
        · rw [pairs, pairs']
          refine sameBoundTwins one one' own own' partner partner' fun apart => ?_
          have further := outside.resolve_left (by simpa [binds] using apart)
          exact agree l further l' r r' partner partner'
      · have lengths := List.Forall₂.length_eq first.descend
        have lengths' := List.Forall₂.length_eq second.descend
        have apart : alphaEqAll (pairBinders ⟨kind,info,children,type?⟩ t ps) children t.children =
            false := Bool.eq_false_iff.mpr fun equal => length (alphaEqAllLength equal)
        have apart' : alphaEqAll (pairBinders s' t' qs) s'.children t'.children = false :=
          Bool.eq_false_iff.mpr fun equal => length
            (lengths.trans ((alphaEqAllLength equal).trans lengths'.symm))
        rw [apart, apart']
    · simp only [beq_eq_false_iff_ne.mpr same, Bool.false_and]

/-! ### Equal terms -/

theorem twinSelf {t : Term} (labelled : t.Labelled) : Twin Eq t t := by
  induction t using nodeInduction with
  | node kind info children type? ih =>
    have own := labelled.own
    refine .node ⟨rfl,own,own,fun _ m n number number' => ?_,fun _ => rfl⟩ ?_
    · exact Option.some.inj (number.symm.trans number')
    · exact List.forall₂_same.mpr fun u mem => ih u mem (labelled.child mem)

theorem sameBoundInside {pairs : List (Nat × Nat)} {l r : Nat} (inside : l ∈ pairs.map Prod.fst)
    (equal : sameBound pairs l r = true) : (l,r) ∈ pairs := by
  induction pairs with
  | nil => cases inside
  | cons p pairs ih =>
    rw [sameBoundPair] at equal
    split at equal
    · obtain ⟨rfl, rfl⟩ := of_decide_eq_true equal
      exact List.mem_cons_self
    · rename_i other
      rw [List.map_cons, List.mem_cons] at inside
      exact List.mem_cons_of_mem _
        (ih (inside.resolve_left fun same => other (.inl same.symm)) equal)

def Places (ms ns : List Nat) (m n : Nat) : Prop :=
  ∃ i : Nat, ms[i]? = some m ∧ ns[i]? = some n

theorem Places.before {ms ns : List Nat} {m n : Nat} (places : Places ms ns m n) (ms' ns' : List Nat) :
    Places (ms ++ ms') (ns ++ ns') m n := by
  obtain ⟨i, first, second⟩ := places
  obtain ⟨below, _⟩ := List.getElem?_eq_some_iff.mp first
  obtain ⟨below', _⟩ := List.getElem?_eq_some_iff.mp second
  exact ⟨i,by rw [List.getElem?_append_left below, first],
    by rw [List.getElem?_append_left below', second]⟩

theorem Places.after {ms ns ms' ns' : List Nat} {m n : Nat} (places : Places ms' ns' m n)
    (length : ms.length = ns.length) : Places (ms ++ ms') (ns ++ ns') m n := by
  obtain ⟨i, first, second⟩ := places
  refine ⟨ms.length + i,?_,?_⟩
  · rw [List.getElem?_append_right (Nat.le_add_right _ _), Nat.add_sub_cancel_left, first]
  · rw [length, List.getElem?_append_right (Nat.le_add_right _ _), Nat.add_sub_cancel_left, second]

theorem placeUnique {ns : List Nat} (distinct : ns.Nodup) {i j : Nat} {n : Nat}
    (first : ns[i]? = some n) (second : ns[j]? = some n) : i = j := by
  obtain ⟨below, _⟩ := List.getElem?_eq_some_iff.mp first
  exact (List.getElem?_inj below distinct).mp (first.trans second.symm)

theorem placesUnique {ms ns : List Nat} (left : ms.Nodup) (right : ns.Nodup) :
    Relator.BiUnique (Places ms ns) := by
  constructor
  · rintro m m' n ⟨i, first, second⟩ ⟨j, first', second'⟩
    obtain rfl := placeUnique right second second'
    exact Option.some.inj (first.symm.trans first')
  · rintro m n n' ⟨i, first, second⟩ ⟨j, first', second'⟩
    obtain rfl := placeUnique left first first'
    exact Option.some.inj (second.symm.trans second')

theorem flatMapLength {α : Type} {f : Term → List α} {as bs : List Term}
    (related : List.Forall₂ (fun a b => (f a).length = (f b).length) as bs) :
    (as.flatMap f).length = (bs.flatMap f).length := by
  induction related with
  | nil => rfl
  | cons first others ih =>
    rw [List.flatMap_cons, List.flatMap_cons, List.length_append, List.length_append, first, ih]

theorem flatMapPlaces {f : Term → List Nat} {R : Term → Term → Prop} {as bs : List Term}
    (related : List.Forall₂ (fun a b => R a b ∧ (f a).length = (f b).length) as bs) :
    List.Forall₂ (fun a b => R a b ∧ ∀ m n, Places (f a) (f b) m n →
      Places (as.flatMap f) (bs.flatMap f) m n) as bs := by
  induction related with
  | nil => exact .nil
  | cons first others ih =>
    refine .cons ⟨first.1,fun m n places => places.before _ _⟩ (ih.imp fun a b pair => ?_)
    exact ⟨pair.1,fun m n places => (pair.2 m n places).after first.2⟩

theorem boundNumberLength {a b : Term} (same : a.kind = b.kind)
    (length : a.children.length = b.children.length) (left : a.Labelled) (right : b.Labelled) :
    a.boundNumber?.toList.length = b.boundNumber?.toList.length := by
  obtain ⟨first, second⟩ := pairBindersScopes [] same length left right
  rw [List.map_nil, List.append_nil] at first second
  rw [← first, ← second, List.length_map, List.length_map]

theorem pairBindersMem {a b : Term} {pairs : List (Nat × Nat)} {p : Nat × Nat}
    (mem : p ∈ pairBinders a b pairs) :
    a.boundNumber? = some p.1 ∧ b.boundNumber? = some p.2 ∨ p ∈ pairs := by
  rw [pairBinders] at mem
  split at mem
  · rename_i l r number number'
    rcases List.mem_cons.mp mem with rfl | further
    · exact .inl ⟨number,number'⟩
    · exact .inr further
  · exact .inr mem

theorem boundNumbersLength (a : Term) : ∀ {b : Term} {pairs : List (Nat × Nat)}, a.Labelled →
    b.Labelled → alphaEqIn pairs a b = true → a.boundNumbers.length = b.boundNumbers.length := by
  induction a using nodeInduction with
  | node kind info children type? ih =>
    intro b pairs left right equal
    have same := alphaEqKind equal
    rw [alphaEqNode, Bool.and_eq_true_iff] at equal
    have below := alphaEqAllPairs.mp equal.2
    have own := boundNumberLength same (List.Forall₂.length_eq below) left right
    rw [boundNumbersNode, boundNumbersNode, List.length_append, List.length_append,
      bindsLabelled left.own, bindsLabelled right.own, own]
    refine congrArg _ ?_
    exact flatMapLength (relatedImp (fun u mem v mem' pair =>
      ih u mem (left.child mem) (right.child mem') pair) below)

theorem alphaEqSize (a : Term) : ∀ {b : Term} {pairs : List (Nat × Nat)},
    alphaEqIn pairs a b = true → a.nodes.length = b.nodes.length := by
  induction a using nodeInduction with
  | node kind info children type? ih =>
    intro b pairs equal
    rw [alphaEqNode, Bool.and_eq_true_iff] at equal
    have below := alphaEqAllPairs.mp equal.2
    have lengths := relatedImp (fun u mem v _ pair => ih u mem pair) below
    rw [nodesNode, nodesNode, List.length_cons, List.length_cons, flatMapLength lengths]

theorem alikeOfEqual {a b : Term} {pairs : List (Nat × Nat)} (kind : a.kind = b.kind)
    (left : a.OwnLabels) (right : b.OwnLabels) (label : sameLabel pairs a b = true)
    (inside : ∀ l ∈ a.freeNumbers, l ∈ pairs.map Prod.fst) (paired : ∀ p ∈ pairs, same p.1 p.2) :
    Alike same a b where
  kind := kind
  left := left
  right := right
  number := by
    intro bound m n number number'
    rw [sameLabel, bound, number, number'] at label
    exact paired _ (sameBoundInside (inside m (freeOwn bound number)) label)
  mark := by
    intro unbound
    have unbound' : b.kind ≠ .boundVar := kind ▸ unbound
    rw [← markOther unbound (pairs.map Prod.fst), ← markOther unbound' (pairs.map Prod.snd)]
    exact (sameLabelMark pairs kind left right).mp label

theorem twinOfEqual (a : Term) : ∀ {b : Term} {pairs : List (Nat × Nat)}, a.Labelled → b.Labelled →
    alphaEqIn pairs a b = true → (∀ l ∈ a.freeNumbers, l ∈ pairs.map Prod.fst) →
    (∀ p ∈ pairs, same p.1 p.2) → (∀ m n, Places a.boundNumbers b.boundNumbers m n → same m n) →
    Twin same a b := by
  induction a using nodeInduction with
  | node kind info children type? ih =>
    intro b pairs left right equal inside paired places
    have alike := alphaEqKind equal
    rw [alphaEqNode, Bool.and_eq_true_iff, Bool.and_eq_true_iff] at equal
    obtain ⟨⟨_, label⟩, all⟩ := equal
    have below := alphaEqAllPairs.mp all
    have length := List.Forall₂.length_eq below
    have scope := (pairBindersScopes pairs alike length left right).1
    have owns := boundNumberLength alike length left right
    rw [boundNumbersNode, boundNumbersNode, bindsLabelled left.own, bindsLabelled right.own] at places
    have lengths : List.Forall₂ (fun u v => _ ∧ u.boundNumbers.length = v.boundNumbers.length)
        children b.children :=
      relatedImp (fun u mem v mem' pair =>
        ⟨pair,boundNumbersLength u (left.child mem) (right.child mem') pair⟩) below
    refine .node (alikeOfEqual alike left.own right.own label inside paired) ?_
    refine relatedImp (fun u mem v mem' pair => ?_) (flatMapPlaces lengths)
    refine ih u mem (left.child mem) (right.child mem') pair.1 (fun l free => ?_) (fun p within => ?_)
      fun m n place => places m n ((pair.2 m n place).after owns)
    · rw [scope]
      rcases freeBelow (t := ⟨kind,info,children,type?⟩) mem free with own | further
      · rw [bindsLabelled left.own] at own
        simp [own]
      · exact List.mem_append_right _ (inside l further)
    · rcases pairBindersMem within with ⟨number, number'⟩ | around
      · refine places p.1 p.2 (Places.before ⟨0,?_,?_⟩ _ _)
        · rw [number]
          rfl
        · rw [number']
          rfl
      · exact paired p around

structure Proper (t : Term) : Prop where
  labelled : t.Labelled
  closed : t.freeNumbers = []
  once : t.boundNumbers.Nodup

theorem properTwins {a b : Term} (left : a.Proper) (right : b.Proper) (equal : a.alphaEq b = true) :
    Relator.BiUnique (Places a.boundNumbers b.boundNumbers) ∧
      Twin (Places a.boundNumbers b.boundNumbers) a b :=
  ⟨placesUnique left.once right.once,twinOfEqual a left.labelled right.labelled equal
    (by simp [left.closed]) (by simp) fun _ _ places => places⟩

end ProofTutor.Term
