import ProofTutor.Dump.Decoder

/-!
What equality up to bound variables does not see: the types of nodes, the order of its two sides, and
the names of bound variables that have numbers.
-/
namespace ProofTutor

namespace Term

@[elab_as_elim]
theorem nodeInduction {motive : Term → Prop}
    (node : ∀ kind info children type?, (∀ t ∈ children, motive t) →
      motive ⟨kind,info,children,type?⟩) (t : Term) : motive t := by
  refine Term.rec (motive_1 := motive) (motive_2 := fun ts => ∀ t ∈ ts, motive t)
    (motive_3 := fun _ => True) ?_ ?_ ?_ trivial (fun _ _ => trivial) t
  · intro kind info children type? below _
    exact node kind info children type? below
  · simp
  · intro t ts head tail
    exact List.forall_mem_cons.mpr ⟨head,tail⟩

theorem alphaEqNode (pairs : List (Nat × Nat)) (a b : Term) : alphaEqIn pairs a b =
    (a.kind == b.kind && sameLabel pairs a b &&
      alphaEqAll (pairBinders a b pairs) a.children b.children) := by
  obtain ⟨kind, info, children, type?⟩ := a
  rw [alphaEqIn]

theorem alphaEqAllMap {pairs : List (Nat × Nat)} {f : Term → Term} {as bs : List Term}
    (each : ∀ a ∈ as, ∀ b ∈ bs, alphaEqIn pairs (f a) b = alphaEqIn pairs a b) :
    alphaEqAll pairs (as.map f) bs = alphaEqAll pairs as bs := by
  induction as generalizing bs with
  | nil => rfl
  | cons a as ih =>
    cases bs with
    | nil => simp [alphaEqAll]
    | cons b bs =>
      have others : alphaEqAll pairs (as.map f) bs = alphaEqAll pairs as bs :=
        ih fun a inside b among =>
          each a (List.mem_cons_of_mem _ inside) b (List.mem_cons_of_mem _ among)
      rw [List.map_cons, alphaEqAll, alphaEqAll, others,
        each a List.mem_cons_self b List.mem_cons_self]

theorem boundNumberMap {f : Term → Term} (kept : ∀ t, (f t).number? = t.number?) (kind : Kind)
    (info info' : Info) (children : List Term) (type? type?' : Option Term) :
    (⟨kind,info',children.map f,type?'⟩ : Term).boundNumber? =
      (⟨kind,info,children,type?⟩ : Term).boundNumber? := by
  rw [boundNumber?, boundNumber?, boundVar?, boundVar?]
  cases kind.isBinder with
  | false => rfl
  | true =>
    simp only [if_true, List.getElem?_map]
    cases children[1]? with
    | none => rfl
    | some v => exact kept v

/-! ### The two sides -/

theorem sameBoundSwap (pairs : List (Nat × Nat)) (l r : Nat) :
    sameBound (pairs.map Prod.swap) r l = sameBound pairs l r := by
  have either : (fun p : Nat × Nat => p.1 == r || p.2 == l) ∘ Prod.swap =
      fun p => p.1 == l || p.2 == r := by
    funext p
    exact Bool.or_comm (p.2 == r) (p.1 == l)
  rw [sameBound, sameBound, List.find?_map, either]
  cases pairs.find? fun p => p.1 == l || p.2 == r with
  | none => exact BEq.comm
  | some p => exact Bool.and_comm (p.2 == r) (p.1 == l)

theorem sameLabelSwap (pairs : List (Nat × Nat)) {a b : Term} (same : a.kind = b.kind) :
    sameLabel (pairs.map Prod.swap) b a = sameLabel pairs a b := by
  have flip (l r : Option String) : (l == r) = (r == l) := BEq.comm
  unfold sameLabel
  rw [← same]
  cases a.kind with
  | boundVar =>
    cases a.number? <;> cases b.number? <;> first | exact flip _ _ | exact sameBoundSwap pairs _ _
  | localConstant =>
    cases a.identifier? <;> cases b.identifier? <;> first | exact flip _ _ | exact BEq.comm
  | metavar => simp only [flip b.identifier?, flip b.name?]
  | constant | rawCode | number => exact flip _ _
  | _ => rfl

theorem pairBindersSwap (a b : Term) (pairs : List (Nat × Nat)) :
    pairBinders b a (pairs.map Prod.swap) = (pairBinders a b pairs).map Prod.swap := by
  rw [pairBinders, pairBinders]
  cases a.boundNumber? <;> cases b.boundNumber? <;> rfl

theorem alphaEqAllSwap {pairs : List (Nat × Nat)} {as bs : List Term}
    (each : ∀ a ∈ as, ∀ b, alphaEqIn (pairs.map Prod.swap) b a = alphaEqIn pairs a b) :
    alphaEqAll (pairs.map Prod.swap) bs as = alphaEqAll pairs as bs := by
  induction as generalizing bs with
  | nil => cases bs <;> rfl
  | cons a as ih =>
    obtain ⟨first, others⟩ := List.forall_mem_cons.mp each
    cases bs with
    | nil => rfl
    | cons b bs => rw [alphaEqAll, alphaEqAll, first b, ih others]

theorem alphaEqSwap (a : Term) : ∀ (pairs : List (Nat × Nat)) (b : Term),
    alphaEqIn (pairs.map Prod.swap) b a = alphaEqIn pairs a b := by
  induction a using nodeInduction with
  | node kind info children type? ih =>
    intro pairs b
    rw [alphaEqNode, alphaEqNode]
    by_cases same : kind = b.kind
    · rw [sameLabelSwap pairs same, pairBindersSwap, alphaEqAllSwap fun a mem b => ih a mem _ b, same]
    · rw [beq_eq_false_iff_ne.mpr same, beq_eq_false_iff_ne.mpr (Ne.symm same)]
      rfl

theorem alphaEqFlip (a b : Term) : b.alphaEq a = a.alphaEq b :=
  alphaEqSwap a [] b

end Term

namespace Decoder

theorem typeNumeralsInMap (type : Term) (ts : List Term) :
    typeNumeralsIn type ts = ts.map (typeNumerals type) := by
  induction ts with
  | nil => rfl
  | cons t ts ih => rw [typeNumeralsIn, ih, List.map_cons]

theorem numeralNoBinder {kind : Kind} (numeral : (kind == .number || kind.isArithmetic) = true) :
    kind.isBinder = false := by
  cases kind <;> first | rfl | cases numeral

theorem alphaEqNumerals (type t : Term) : ∀ (pairs : List (Nat × Nat)) (b : Term),
    Term.alphaEqIn pairs (typeNumerals type t) b = Term.alphaEqIn pairs t b := by
  induction t using Term.nodeInduction with
  | node kind info children type? ih =>
    intro pairs b
    cases type? with
    | some own => rw [typeNumerals]
    | none =>
      rw [typeNumerals]
      split
      · rename_i numeral
        have noBinder := numeralNoBinder numeral
        rw [Term.alphaEqNode, Term.alphaEqNode, typeNumeralsInMap,
          Term.alphaEqAllMap fun a inside b _ => ih a inside _ b]
        simp [Term.pairBinders, Term.boundNumber?, Term.boundVar?, noBinder, Term.sameLabel,
          Term.number?, Term.name?, Term.identifier?, Term.value?]
      · rfl

theorem alphaEqSiblings (pairs : List (Nat × Nat)) (as bs : List Term) :
    Term.alphaEqAll pairs (typeSiblings as) bs = Term.alphaEqAll pairs as bs := by
  rw [typeSiblings]
  split
  · rw [typeNumeralsInMap]
    exact Term.alphaEqAllMap fun a _ b _ => alphaEqNumerals _ a pairs b
  · rfl

end Decoder

/-! ### Names of bound variables -/

inductive Term.Numbered : Term → Prop where
  | node {kind : Kind} {info : Info} {children : List Term} {type? : Option Term}
      (own : kind = .boundVar → ∃ n, info.number = some n) (below : ∀ t ∈ children, Numbered t) :
      Numbered ⟨kind,info,children,type?⟩

namespace Naming

structure Renames (kind : Kind) (before after : Info) : Prop where
  name : ∃ name, after = { before with name }
  others : (kind = .boundVar → before.number = none) → after = before

theorem renameBoundInfo (number : Nat) (name : String) (t : Term) :
    (t.renameBound number name).kind = t.kind ∧
      Renames t.kind t.info (t.renameBound number name).info := by
  obtain ⟨kind, info, children, type?⟩ := t
  rw [Term.renameBound]
  refine ⟨rfl,?_⟩
  dsimp only
  split
  · rename_i own
    obtain ⟨bound, same⟩ := Bool.and_eq_true_iff.mp own
    refine ⟨⟨some name,rfl⟩,?_⟩
    intro free
    have numbered : info.number = some number := eq_of_beq same
    cases numbered.symm.trans (free (eq_of_beq bound))
  · exact ⟨⟨info.name,rfl⟩,fun _ => rfl⟩

theorem renamedInfo (renames : List (Nat × String)) (t : Term) :
    Renames t.kind t.info (renamed renames t).info := by
  induction renames generalizing t with
  | nil => exact ⟨⟨t.info.name,rfl⟩,fun _ => rfl⟩
  | cons rename renames ih =>
    obtain ⟨kind, ⟨name, same⟩, others⟩ := renameBoundInfo rename.1 rename.2 t
    obtain ⟨⟨last, same'⟩, others'⟩ := ih (t.renameBound rename.1 rename.2)
    have step : renamed (rename :: renames) t =
        renamed renames (t.renameBound rename.1 rename.2) := rfl
    rw [step]
    refine ⟨⟨last,by rw [same', same]⟩,?_⟩
    intro free
    have unchanged := others free
    rw [kind, unchanged] at others'
    exact others' free

theorem nameAllMap (naming : Naming) (outer : List String) (scope : List Scoped)
    (renames : List (Nat × String)) (ts : List Term) :
    nameAll naming outer scope renames ts = ts.map (nameIn naming outer scope renames) := by
  induction ts with
  | nil => rfl
  | cons t ts ih => rw [nameAll, ih, List.map_cons]

theorem nameInNode (naming : Naming) (outer : List String) (scope : List Scoped)
    (renames : List (Nat × String)) (kind : Kind) (info : Info) (children : List Term)
    (type? : Option Term) : ∃ own inner renames',
      nameIn naming outer scope renames ⟨kind,info,children,type?⟩ =
        ⟨kind,(renamed own ⟨kind,info,children,type?⟩).info,
          children.map (nameIn naming outer inner renames'),type?⟩ := by
  rw [nameIn]
  split
  · exact ⟨renames,scope,renames,by rw [nameAllMap]⟩
  · dsimp only
    rw [nameAllMap]
    exact ⟨_,_,_,rfl⟩

theorem nameInNumber (naming : Naming) (outer : List String) (scope : List Scoped)
    (renames : List (Nat × String)) (t : Term) :
    (nameIn naming outer scope renames t).number? = t.number? := by
  obtain ⟨kind, info, children, type?⟩ := t
  obtain ⟨own, inner, renames', same⟩ := nameInNode naming outer scope renames kind info children type?
  obtain ⟨name, renamed⟩ := (renamedInfo own ⟨kind,info,children,type?⟩).name
  rw [same, Term.number?, renamed, Term.number?]

theorem labelRenamed {pairs : List (Nat × Nat)} {kind : Kind} {info info' : Info}
    {children children' : List Term} {type? type?' : Option Term} {b : Term}
    (renames : Renames kind info info') (same : kind = b.kind)
    (numbered : b.kind = .boundVar → ∃ n, b.info.number = some n) :
    Term.sameLabel pairs ⟨kind,info',children',type?'⟩ b =
      Term.sameLabel pairs ⟨kind,info,children,type?⟩ b := by
  by_cases free : kind = .boundVar → info.number = none
  · rw [renames.others free]
    rfl
  · obtain ⟨bound, number⟩ := Classical.not_imp.mp free
    obtain ⟨name, changed⟩ := renames.name
    obtain ⟨m, own⟩ := Option.ne_none_iff_exists'.mp number
    obtain ⟨n, other⟩ := numbered (same ▸ bound)
    simp [Term.sameLabel, bound, Term.number?, changed, own, other]

theorem alphaEqNamed (naming : Naming) (outer : List String) (t : Term) :
    ∀ (scope : List Scoped) (renames : List (Nat × String)) (pairs : List (Nat × Nat)) (b : Term),
      b.Numbered → Term.alphaEqIn pairs (nameIn naming outer scope renames t) b =
        Term.alphaEqIn pairs t b := by
  induction t using Term.nodeInduction with
  | node kind info children type? ih =>
    intro scope renames pairs b numbered
    obtain ⟨own, inner, renames', same⟩ :=
      nameInNode naming outer scope renames kind info children type?
    cases numbered with
    | @node otherKind otherInfo others otherType? ownNumber below =>
      have bound := Term.boundNumberMap (nameInNumber naming outer inner renames') kind info
        (renamed own ⟨kind,info,children,type?⟩).info children type? type?
      rw [same, Term.alphaEqNode, Term.alphaEqNode, Term.pairBinders, Term.pairBinders, bound]
      by_cases agree : kind = otherKind
      · rw [labelRenamed (renamedInfo own ⟨kind,info,children,type?⟩) agree ownNumber,
          Term.alphaEqAllMap fun a inside b among => ih a inside _ _ _ b (below b among)]
      · rw [beq_eq_false_iff_ne.mpr agree, Bool.false_and, Bool.false_and, Bool.false_and,
          Bool.false_and]

end Naming

end ProofTutor
