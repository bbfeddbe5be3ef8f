import ProofTutor.Proofs.Term.Hygiene

/-!
Terms without names for their bound variables. An occurrence is the place of its binder among the
enclosing ones, counted from the innermost, and equality up to bound variables is equality of what is
left. So it is an equivalence, whatever is shadowed and whatever numbers are used again.
-/
namespace ProofTutor

inductive Mark where
  | bound (index : Nat)
  | free (number : Nat)
  | texts (identifier name value : Option String)
  deriving DecidableEq, Repr

namespace Mark

def under : Mark → Mark
  | .bound index => .bound (index + 1)
  | mark => mark

theorem underEq {a b : Mark} : a.under = b.under ↔ a = b := by
  cases a <;> cases b <;> simp [under]

theorem underOuter (mark : Mark) : mark.under ≠ .bound 0 := by
  cases mark <;> simp [under]

end Mark

structure Nameless where
  kind : Kind
  mark : Mark
  children : List Nameless
  deriving Repr

namespace Term

structure OwnLabels (t : Term) : Prop where
  numbered : t.kind = .boundVar → t.number?.isSome
  identified : t.kind = .localConstant → t.identifier?.isSome
  binds : ∀ v ∈ t.boundVar?, v.kind = .boundVar

instance (t : Term) : Decidable t.OwnLabels :=
  decidable_of_iff ((t.kind = .boundVar → t.number?.isSome) ∧
      (t.kind = .localConstant → t.identifier?.isSome) ∧ ∀ v ∈ t.boundVar?, v.kind = .boundVar)
    ⟨fun ⟨numbered, identified, binds⟩ => ⟨numbered,identified,binds⟩,
      fun own => ⟨own.numbered,own.identified,own.binds⟩⟩

def Labelled (t : Term) : Prop := ∀ u ∈ t.nodes, u.OwnLabels

instance (t : Term) : Decidable t.Labelled := inferInstanceAs (Decidable (∀ u ∈ t.nodes, u.OwnLabels))

def variableMark (scope : List Nat) (n : Nat) : Mark :=
  match scope.idxOf? n with
  | some index => .bound index
  | none => .free n

def markIn (scope : List Nat) (t : Term) : Mark :=
  match t.kind with
  | .boundVar =>
    match t.number? with
    | some n => variableMark scope n
    | none => .texts none t.name? none
  | .localConstant => .texts t.identifier? none none
  | .constant | .rawCode => .texts none t.name? none
  | .metavar => .texts t.identifier? t.name? none
  | .number => .texts none none t.value?
  | _ => .texts none none none

mutual

/-- The term without names under the variables in `scope`, innermost first; all children of a binder
are under its variable. -/
def namelessIn (scope : List Nat) : Term → Nameless
  | ⟨kind, info, children, type?⟩ =>
    let t : Term := ⟨kind, info, children, type?⟩
    ⟨kind, markIn scope t, namelessAll (t.boundNumber?.toList ++ scope) children⟩

def namelessAll (scope : List Nat) : List Term → List Nameless
  | [] => []
  | t :: ts => namelessIn scope t :: namelessAll scope ts

end

def nameless (t : Term) : Nameless :=
  t.namelessIn []

theorem namelessAllMap (scope : List Nat) (ts : List Term) :
    namelessAll scope ts = ts.map (namelessIn scope) := by
  induction ts with
  | nil => rfl
  | cons t ts ih => rw [namelessAll, ih, List.map_cons]

theorem namelessNode (scope : List Nat) (t : Term) : t.namelessIn scope =
    ⟨t.kind,t.markIn scope,t.children.map (namelessIn (t.boundNumber?.toList ++ scope))⟩ := by
  obtain ⟨kind, info, children, type?⟩ := t
  rw [namelessIn, namelessAllMap]

theorem nodesNode (t : Term) : t.nodes = t :: t.children.flatMap nodes := by
  obtain ⟨kind, info, children, type?⟩ := t
  rw [nodes, nodesOfFlat]

theorem nodesBelow {t u v : Term} (mem : u ∈ t.children) (inside : v ∈ u.nodes) : v ∈ t.nodes := by
  rw [nodesNode]
  exact List.mem_cons_of_mem _ (List.mem_flatMap.mpr ⟨u,mem,inside⟩)

theorem Labelled.own {t : Term} (labelled : t.Labelled) : t.OwnLabels :=
  labelled t (by rw [nodesNode]; exact List.mem_cons_self)

theorem Labelled.child {t u : Term} (labelled : t.Labelled) (mem : u ∈ t.children) : u.Labelled :=
  fun v inside => labelled v (nodesBelow mem inside)

/-! ### Occurrences and their binders -/

theorem variableMarkOwn (n : Nat) (scope : List Nat) : variableMark (n :: scope) n = .bound 0 := by
  simp [variableMark, List.idxOf?_cons]

theorem variableMarkOther {m n : Nat} (other : m ≠ n) (scope : List Nat) :
    variableMark (m :: scope) n = (variableMark scope n).under := by
  rw [variableMark, variableMark, List.idxOf?_cons, beq_eq_false_iff_ne.mpr other]
  cases scope.idxOf? n <;> rfl

theorem sameBoundPair (p : Nat × Nat) (pairs : List (Nat × Nat)) (l r : Nat) :
    sameBound (p :: pairs) l r =
      if p.1 = l ∨ p.2 = r then decide (p.1 = l ∧ p.2 = r) else sameBound pairs l r := by
  rw [sameBound, List.find?_cons]
  by_cases either : p.1 = l ∨ p.2 = r
  · have found : (p.1 == l || p.2 == r) = true := by simpa using either
    rw [found, if_pos either, Bool.decide_and]
    rfl
  · have skipped : (p.1 == l || p.2 == r) = false := by simpa using either
    rw [skipped, if_neg either, sameBound]

theorem sameBoundMark (pairs : List (Nat × Nat)) (l r : Nat) : sameBound pairs l r = true ↔
    variableMark (pairs.map Prod.fst) l = variableMark (pairs.map Prod.snd) r := by
  induction pairs with
  | nil => simp [sameBound, variableMark]
  | cons p pairs ih =>
    obtain ⟨m, n⟩ := p
    rw [sameBoundPair, List.map_cons, List.map_cons]
    by_cases left : m = l
    · subst left
      by_cases right : n = r
      · subst right
        simp [variableMarkOwn]
      · rw [variableMarkOwn, variableMarkOther right]
        simp [right, (Mark.underOuter _).symm]
    · by_cases right : n = r
      · subst right
        rw [variableMarkOwn, variableMarkOther left]
        simp [left, Mark.underOuter]
      · rw [variableMarkOther left, variableMarkOther right, Mark.underEq, ← ih]
        simp [left, right]

theorem sameLabelMark (pairs : List (Nat × Nat)) {a b : Term} (same : a.kind = b.kind)
    (left : a.OwnLabels) (right : b.OwnLabels) : sameLabel pairs a b = true ↔
      a.markIn (pairs.map Prod.fst) = b.markIn (pairs.map Prod.snd) := by
  cases kind : a.kind with
  | boundVar =>
    obtain ⟨l, number⟩ := Option.isSome_iff_exists.mp (left.numbered kind)
    obtain ⟨r, number'⟩ := Option.isSome_iff_exists.mp (right.numbered (same ▸ kind))
    simp only [sameLabel, markIn, ← same, kind, number, number']
    exact sameBoundMark pairs l r
  | localConstant =>
    obtain ⟨l, identifier⟩ := Option.isSome_iff_exists.mp (left.identified kind)
    obtain ⟨r, identifier'⟩ := Option.isSome_iff_exists.mp (right.identified (same ▸ kind))
    simp [sameLabel, markIn, ← same, kind, identifier, identifier']
  | _ => simp [sameLabel, markIn, ← same, kind]

/-! ### Terms -/

theorem boundNumberSome {t v : Term} (own : t.OwnLabels) (below : ∀ u ∈ t.children, u.OwnLabels)
    (bound : t.boundVar? = some v) : t.boundNumber?.isSome := by
  have among : v ∈ t.children := by
    rw [boundVar?] at bound
    split at bound
    · exact List.mem_of_getElem? bound
    · cases bound
  rw [boundNumber?, bound]
  exact (below v among).numbered (own.binds v bound)

theorem boundVarAlike {a b : Term} (same : a.kind = b.kind)
    (length : a.children.length = b.children.length) : a.boundVar?.isSome = b.boundVar?.isSome := by
  rw [boundVar?, boundVar?, same]
  cases b.kind.isBinder with
  | false => rfl
  | true =>
    rw [Bool.eq_iff_iff]
    simp [length]

theorem pairBindersScopes (pairs : List (Nat × Nat)) {a b : Term} (same : a.kind = b.kind)
    (length : a.children.length = b.children.length) (left : a.Labelled) (right : b.Labelled) :
    (pairBinders a b pairs).map Prod.fst = a.boundNumber?.toList ++ pairs.map Prod.fst ∧
      (pairBinders a b pairs).map Prod.snd = b.boundNumber?.toList ++ pairs.map Prod.snd := by
  have alike := boundVarAlike same length
  rw [pairBinders]
  cases first : a.boundVar? with
  | none =>
    rw [first] at alike
    cases second : b.boundVar? with
    | none => simp [boundNumber?, first, second]
    | some w => simp [second] at alike
  | some v =>
    rw [first] at alike
    obtain ⟨w, second⟩ := Option.isSome_iff_exists.mp alike.symm
    obtain ⟨l, number⟩ := Option.isSome_iff_exists.mp
      (boundNumberSome left.own (fun u mem => (left.child mem).own) first)
    obtain ⟨r, number'⟩ := Option.isSome_iff_exists.mp
      (boundNumberSome right.own (fun u mem => (right.child mem).own) second)
    simp [number, number']

theorem alphaEqAllLength {pairs : List (Nat × Nat)} {as bs : List Term}
    (equal : alphaEqAll pairs as bs = true) : as.length = bs.length := by
  induction as generalizing bs with
  | nil => cases bs <;> simp_all [alphaEqAll]
  | cons a as ih =>
    cases bs with
    | nil => simp [alphaEqAll] at equal
    | cons b bs =>
      rw [alphaEqAll, Bool.and_eq_true_iff] at equal
      rw [List.length_cons, List.length_cons, ih equal.2]

theorem alphaEqAllNameless {pairs : List (Nat × Nat)} {scope scope' : List Nat} {as bs : List Term}
    (each : ∀ a ∈ as, ∀ b ∈ bs, alphaEqIn pairs a b = true ↔ a.namelessIn scope = b.namelessIn scope') :
    alphaEqAll pairs as bs = true ↔ as.map (namelessIn scope) = bs.map (namelessIn scope') := by
  induction as generalizing bs with
  | nil => cases bs <;> simp [alphaEqAll]
  | cons a as ih =>
    cases bs with
    | nil => simp [alphaEqAll]
    | cons b bs =>
      have others := ih fun a inside b among =>
        each a (List.mem_cons_of_mem _ inside) b (List.mem_cons_of_mem _ among)
      rw [alphaEqAll, Bool.and_eq_true_iff, each a List.mem_cons_self b List.mem_cons_self, others,
        List.map_cons, List.map_cons, List.cons.injEq]

theorem alphaEqInNameless (a : Term) : ∀ (pairs : List (Nat × Nat)) (b : Term), a.Labelled → b.Labelled →
    (alphaEqIn pairs a b = true ↔
      a.namelessIn (pairs.map Prod.fst) = b.namelessIn (pairs.map Prod.snd)) := by
  induction a using nodeInduction with
  | node kind info children type? ih =>
    intro pairs b left right
    rw [alphaEqNode, namelessNode, namelessNode, Nameless.mk.injEq, Bool.and_eq_true_iff,
      Bool.and_eq_true_iff, beq_iff_eq, and_assoc]
    refine and_congr_right fun same => ?_
    refine and_congr (sameLabelMark pairs same left.own right.own) ?_
    by_cases length : children.length = b.children.length
    · obtain ⟨first, second⟩ := pairBindersScopes pairs same length left right
      rw [← first, ← second]
      exact alphaEqAllNameless fun a inside b among =>
        ih a inside _ b (left.child inside) (right.child among)
    · -- here one of two binders may be paired with nothing
      constructor
      · exact fun equal => absurd (alphaEqAllLength equal) length
      · exact fun equal => absurd (by simpa using congrArg List.length equal) length

/-- Equality up to bound variables is equality of nameless terms, and so it is an equivalence. -/
theorem alphaEqNameless :
    (∀ a b : Term, a.Labelled → b.Labelled → (a.alphaEq b = true ↔ a.nameless = b.nameless)) ∧
      Equivalence fun a b : {t : Term // t.Labelled} => a.1.alphaEq b.1 = true := by
  have same (a b : Term) (left : a.Labelled) (right : b.Labelled) :
      a.alphaEq b = true ↔ a.nameless = b.nameless := alphaEqInNameless a [] b left right
  refine ⟨same,⟨fun a => ?_,fun {a b} equal => ?_,fun {a b c} equal equal' => ?_⟩⟩
  · exact (same a a a.2 a.2).mpr rfl
  · exact (same b a b.2 a.2).mpr ((same a b a.2 b.2).mp equal).symm
  · exact (same a c a.2 c.2).mpr
      (((same a b a.2 b.2).mp equal).trans ((same b c b.2 c.2).mp equal'))

def twoQuantifiers (outer inner used : Nat) : Term :=
  bind .universal (boundVar "x" outer sort) (bind .existential
    (boundVar "y" inner (binary .belongs (boundVar "y" inner sort) (constant "S")))
    (binary .equals (boundVar "z" used sort) (localConstant "c" "0.c" sort)))

theorem alphaEqNamelessShadowed :
    (twoQuantifiers 0 0 0).Labelled ∧ (twoQuantifiers 2 1 1).Labelled ∧
      (twoQuantifiers 2 1 2).Labelled ∧
      (twoQuantifiers 0 0 0).alphaEq (twoQuantifiers 2 1 1) = true ∧
      (twoQuantifiers 0 0 0).nameless ≠ (twoQuantifiers 2 1 2).nameless := by
  refine ⟨by decide,by decide,by decide,?_,?_⟩
  · exact (alphaEqNameless.1 _ _ (by decide) (by decide)).mpr rfl
  · rw [Ne, ← alphaEqNameless.1 _ _ (by decide) (by decide)]
    decide

end Term

end ProofTutor
