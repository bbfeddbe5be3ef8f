import ProofTutor.Proofs.Term.Hygiene
import ProofTutor.Term.Display

/-!
Terms without types. Equality up to bound variables, display and the names of local constants are the
same for a term and for what is left of it without its types; equality does not see the names of
numbered variables either.
-/
namespace ProofTutor

namespace Term

mutual

def reduced (own : Kind → Info → Info) : Term → Term
  | ⟨kind, info, children, _⟩ => { kind, info := own kind info, children := reducedAll own children }

def reducedAll (own : Kind → Info → Info) : List Term → List Term
  | [] => []
  | t :: ts => reduced own t :: reducedAll own ts

end

def bare (t : Term) : Term :=
  t.reduced fun _ info => info

def unnamed (kind : Kind) (info : Info) : Info :=
  if kind == .boundVar && info.number.isSome then { info with name := none } else info

def anonymous (t : Term) : Term :=
  t.reduced unnamed

variable {own : Kind → Info → Info}

theorem reducedAllMap (ts : List Term) : reducedAll own ts = ts.map (reduced own) := by
  induction ts with
  | nil => rfl
  | cons t ts ih => rw [reducedAll, ih, List.map_cons]

theorem reducedNode (kind : Kind) (info : Info) (children : List Term) (type? : Option Term) :
    reduced own ⟨kind,info,children,type?⟩ = ⟨kind,own kind info,children.map (reduced own),none⟩ := by
  rw [reduced, reducedAllMap]

theorem bareNode (kind : Kind) (info : Info) (children : List Term) (type? : Option Term) :
    bare ⟨kind,info,children,type?⟩ = ⟨kind,info,children.map bare,none⟩ :=
  reducedNode kind info children type?

theorem bareKind (t : Term) : t.bare.kind = t.kind := by
  obtain ⟨kind, info, children, type?⟩ := t
  rfl

theorem bareName (t : Term) : t.bare.name? = t.name? := by
  obtain ⟨kind, info, children, type?⟩ := t
  rfl

theorem anonymousNode (kind : Kind) (info : Info) (children : List Term) (type? : Option Term) :
    anonymous ⟨kind,info,children,type?⟩ = ⟨kind,unnamed kind info,children.map anonymous,none⟩ :=
  reducedNode kind info children type?

theorem unnamedRenames (kind : Kind) (info : Info) : Naming.Renames kind info (unnamed kind info) := by
  rw [unnamed]
  split
  · rename_i bound
    obtain ⟨bound, number⟩ := Bool.and_eq_true_iff.mp bound
    refine ⟨⟨none,rfl⟩,fun free => ?_⟩
    rw [free (eq_of_beq bound)] at number
    cases number
  · exact ⟨⟨info.name,rfl⟩,fun _ => rfl⟩

theorem unnamedSame {kind : Kind} {info info' : Info} (renames : Naming.Renames kind info info') :
    unnamed kind info' = unnamed kind info := by
  by_cases free : kind = .boundVar → info.number = none
  · rw [renames.others free]
  · obtain ⟨bound, number⟩ := Classical.not_imp.mp free
    obtain ⟨name, rfl⟩ := renames.name
    have numbered : info.number.isSome = true := Option.isSome_iff_ne_none.mpr number
    rw [unnamed, unnamed, bound]
    simp [numbered]

/-! ### Equality -/

theorem alphaEqAllBoth {pairs : List (Nat × Nat)} {f g : Term → Term} {as bs : List Term}
    (each : ∀ a ∈ as, ∀ b ∈ bs, alphaEqIn pairs (f a) (g b) = alphaEqIn pairs a b) :
    alphaEqAll pairs (as.map f) (bs.map g) = alphaEqAll pairs as bs := by
  induction as generalizing bs with
  | nil => cases bs <;> rfl
  | cons a as ih =>
    cases bs with
    | nil => rfl
    | cons b bs =>
      have others : alphaEqAll pairs (as.map f) (bs.map g) = alphaEqAll pairs as bs :=
        ih fun a inside b among =>
          each a (List.mem_cons_of_mem _ inside) b (List.mem_cons_of_mem _ among)
      rw [List.map_cons, List.map_cons, alphaEqAll, alphaEqAll, others,
        each a List.mem_cons_self b List.mem_cons_self]

theorem alphaEqAllMatched {pairs : List (Nat × Nat)} {as bs : List Term}
    (same : as.map anonymous = bs.map anonymous)
    (each : ∀ a ∈ as, ∀ b, a.anonymous = b.anonymous → alphaEqIn pairs a b = true) :
    alphaEqAll pairs as bs = true := by
  induction as generalizing bs with
  | nil =>
    obtain rfl := List.map_eq_nil_iff.mp same.symm
    rfl
  | cons a as ih =>
    obtain ⟨first, others⟩ := List.forall_mem_cons.mp each
    obtain ⟨b, bs, rfl, here, rest⟩ := List.map_eq_cons_iff.mp same.symm
    rw [alphaEqAll, first b here.symm, ih rest.symm others]
    rfl

section Equality
variable (keeps : ∀ kind info, Naming.Renames kind info (own kind info))
include keeps

theorem reducedNumber (t : Term) : (t.reduced own).number? = t.number? := by
  obtain ⟨kind, info, children, type?⟩ := t
  obtain ⟨name, same⟩ := (keeps kind info).name
  rw [reducedNode, number?, same, number?]

theorem numberedReduced {t : Term} : (t.reduced own).Numbered ↔ t.Numbered := by
  induction t using nodeInduction with
  | node kind info children type? ih =>
    obtain ⟨name, same⟩ := (keeps kind info).name
    have number : (own kind info).number = info.number := by rw [same]
    rw [reducedNode]
    constructor
    · rintro ⟨bound, below⟩
      exact .node (number ▸ bound) fun t mem => (ih t mem).mp (below _ (List.mem_map_of_mem mem))
    · rintro ⟨bound, below⟩
      refine .node (number ▸ bound) fun t mem => ?_
      obtain ⟨child, inside, rfl⟩ := List.mem_map.mp mem
      exact (ih child inside).mpr (below child inside)

theorem labelReduced (pairs : List (Nat × Nat)) {a b : Term} (same : a.kind = b.kind)
    (left : a.Numbered) (right : b.Numbered) :
    sameLabel pairs (a.reduced own) (b.reduced own) = sameLabel pairs a b := by
  cases left with
  | @node kind info children type? numbered _ =>
    cases right with
    | @node kind' info' children' type?' numbered' _ =>
      obtain rfl : kind = kind' := same
      rw [reducedNode, reducedNode]
      by_cases bound : kind = .boundVar
      · subst bound
        obtain ⟨m, number⟩ := numbered rfl
        obtain ⟨n, number'⟩ := numbered' rfl
        obtain ⟨name, changed⟩ := (keeps .boundVar info).name
        obtain ⟨name', changed'⟩ := (keeps .boundVar info').name
        simp [sameLabel, number?, changed, changed', number, number']
      · rw [(keeps kind info).others fun same => absurd same bound,
          (keeps kind info').others fun same => absurd same bound]
        rfl

theorem alphaEqReduced (a : Term) : ∀ (pairs : List (Nat × Nat)) (b : Term), a.Numbered → b.Numbered →
    alphaEqIn pairs (a.reduced own) (b.reduced own) = alphaEqIn pairs a b := by
  induction a using nodeInduction with
  | node kind info children type? ih =>
    rintro pairs ⟨kind', info', children', type?'⟩ left right
    by_cases same : kind = kind'
    · have below : ∀ pairs, alphaEqAll pairs (children.map (reduced own))
          (children'.map (reduced own)) = alphaEqAll pairs children children' := by
        intro pairs
        cases left with
        | node _ below =>
          cases right with
          | node _ below' =>
            exact alphaEqAllBoth fun a mem b mem' => ih a mem pairs b (below a mem) (below' b mem')
      have bound := boundNumberMap (reducedNumber keeps) kind info (own kind info) children type? none
      have bound' := boundNumberMap (reducedNumber keeps) kind' info' (own kind' info') children'
        type?' none
      have label := labelReduced keeps pairs same left right
      rw [reducedNode, reducedNode] at label
      rw [reducedNode, reducedNode, alphaEqNode, alphaEqNode, label, pairBinders, pairBinders, bound,
        bound', below]
    · rw [reducedNode, reducedNode, alphaEqNode, alphaEqNode, beq_eq_false_iff_ne.mpr same]
      rfl

end Equality

theorem bareRenames (kind : Kind) (info : Info) : Naming.Renames kind info info :=
  ⟨⟨info.name,rfl⟩,fun _ => rfl⟩

theorem sameBoundSelf {pairs : List (Nat × Nat)} (diagonal : ∀ p ∈ pairs, p.1 = p.2) (n : Nat) :
    sameBound pairs n n = true := by
  rw [sameBound]
  split
  · rename_i p found
    have same := diagonal p (List.mem_of_find?_eq_some found)
    have own := List.find?_some found
    simpa [same] using own
  · exact beq_self_eq_true n

theorem sameLabelSelf {pairs : List (Nat × Nat)} (diagonal : ∀ p ∈ pairs, p.1 = p.2) {a b : Term}
    (info : a.info = b.info) : sameLabel pairs a b = true := by
  unfold sameLabel
  simp only [number?, name?, identifier?, value?, info]
  split
  · split
    · rename_i l r left right
      cases left.symm.trans right
      exact sameBoundSelf diagonal _
    · exact beq_self_eq_true _
  · split
    · rename_i l r left right
      cases left.symm.trans right
      exact beq_self_eq_true _
    · exact beq_self_eq_true _
  all_goals simp

theorem labelUnnamed {pairs : List (Nat × Nat)} (diagonal : ∀ p ∈ pairs, p.1 = p.2) {kind : Kind}
    {info info' : Info} (same : unnamed kind info = unnamed kind info') (children children' : List Term)
    (type? type?' : Option Term) :
    sameLabel pairs ⟨kind,info,children,type?⟩ ⟨kind,info',children',type?'⟩ = true := by
  have renames := unnamedRenames kind info
  have renames' := unnamedRenames kind info'
  obtain ⟨_, changed⟩ := renames.name
  obtain ⟨_, changed'⟩ := renames'.name
  have number : info.number = info'.number := by
    have numbers := congrArg Info.number same
    rw [changed, changed'] at numbers
    exact numbers
  by_cases free : kind = .boundVar → info.number = none
  · have equal : info = info' := by
      rw [← renames.others free, same, renames'.others fun bound => number ▸ free bound]
    exact sameLabelSelf diagonal equal
  · obtain ⟨rfl, numbered⟩ := Classical.not_imp.mp free
    obtain ⟨n, own⟩ := Option.ne_none_iff_exists'.mp numbered
    simp only [sameLabel, number?, ← number, own]
    exact sameBoundSelf diagonal n

theorem alphaEqMatched (a : Term) : ∀ (pairs : List (Nat × Nat)) (b : Term),
    (∀ p ∈ pairs, p.1 = p.2) → a.anonymous = b.anonymous → alphaEqIn pairs a b = true := by
  induction a using nodeInduction with
  | node kind info children type? ih =>
    rintro pairs ⟨kind', info', children', type?'⟩ diagonal same
    have bound := boundNumberMap (reducedNumber unnamedRenames) kind info {} children type? none
    have bound' := boundNumberMap (reducedNumber unnamedRenames) kind info' {} children' type?' none
    rw [anonymousNode, anonymousNode] at same
    simp only [Term.mk.injEq] at same
    obtain ⟨rfl, label, below, _⟩ := same
    have binders : (⟨kind,info,children,type?⟩ : Term).boundNumber? =
        (⟨kind,info',children',type?'⟩ : Term).boundNumber? := by
      rw [← bound, ← bound']
      exact congrArg (fun ts => (⟨kind,{},ts,none⟩ : Term).boundNumber?) below
    have inner : ∀ p ∈ pairBinders ⟨kind,info,children,type?⟩ ⟨kind,info',children',type?'⟩ pairs,
        p.1 = p.2 := by
      rw [pairBinders, binders]
      split
      · rename_i l r left right
        cases left.symm.trans right
        exact List.forall_mem_cons.mpr ⟨rfl,diagonal⟩
      · exact diagonal
    rw [alphaEqNode, labelUnnamed diagonal label, beq_self_eq_true,
      alphaEqAllMatched below fun a mem b alike => ih a mem _ b inner alike]
    rfl

theorem alphaEqSelf (t : Term) (pairs : List (Nat × Nat)) (diagonal : ∀ p ∈ pairs, p.1 = p.2) :
    alphaEqIn pairs t t = true :=
  alphaEqMatched t pairs t diagonal rfl

theorem bareAlphaEq {a b : Term} (same : a.bare = b.bare) (left : a.Numbered) (right : b.Numbered) :
    a.alphaEq b = true := by
  rw [alphaEq, ← alphaEqReduced bareRenames a [] b left right]
  show alphaEqIn [] a.bare b.bare = true
  rw [same]
  exact alphaEqSelf _ [] (by simp)

/-! ### Display -/

theorem renderChildBare {format : Format} {depth : Option Nat} {ts : List Term}
    (each : ∀ t ∈ ts, t.bare.render format depth = t.render format depth) (parent : Kind)
    (index skip : Nat) : renderChild format depth parent index skip (ts.map bare) =
      renderChild format depth parent index skip ts := by
  induction ts generalizing skip with
  | nil => cases skip <;> rfl
  | cons t ts ih =>
    obtain ⟨first, others⟩ := List.forall_mem_cons.mp each
    cases skip with
    | zero => rw [List.map_cons, renderChild, renderChild, first, bareKind]
    | succ skip => rw [List.map_cons, renderChild, renderChild, ih others]

theorem renderChildrenBare {format : Format} {depth : Option Nat} {ts : List Term}
    (each : ∀ t ∈ ts, t.bare.render format depth = t.render format depth) (parent : Kind)
    (glyph : String) (index : Nat) : renderChildren format depth parent glyph index (ts.map bare) =
      renderChildren format depth parent glyph index ts := by
  induction ts generalizing index with
  | nil => rfl
  | cons t ts ih =>
    obtain ⟨first, others⟩ := List.forall_mem_cons.mp each
    rw [List.map_cons, renderChildren, renderChildren, first, bareKind, ih others]

def ShownBare (format : Format) (ts : List Term) : Prop :=
  ∀ depth path, renderNested format depth path (ts.map bare) = renderNested format depth path ts

theorem renderNestedBare {format : Format} {ts : List Term}
    (each : ∀ t ∈ ts, (∀ depth, t.bare.render format depth = t.render format depth) ∧
      ShownBare format t.children) : ShownBare format ts := by
  intro depth path
  induction ts generalizing path with
  | nil => rfl
  | cons t ts ih =>
    obtain ⟨⟨first, below⟩, others⟩ := List.forall_mem_cons.mp each
    obtain ⟨kind, info, children, type?⟩ := t
    rw [List.map_cons]
    match path with
    | [] => rfl
    | (i + 1) :: path =>
      rw [renderNested, renderNested]
      exact ih others (i :: path)
    | [0] =>
      have childless : (children.map bare).isEmpty = children.isEmpty := List.isEmpty_map
      rw [renderNested, renderNested, first, bareNode, childless]
    | 0 :: next :: path =>
      rw [bareNode, renderNested, renderNested]
      · exact below depth (next :: path)
      · simp
      · simp

theorem renderBare (format : Format) (t : Term) :
    (∀ depth, t.bare.render format depth = t.render format depth) ∧ ShownBare format t.children := by
  induction t using nodeInduction with
  | node kind info children type? ih =>
    refine ⟨fun depth => ?_,renderNestedBare ih⟩
    have each (depth : Option Nat) : ∀ t ∈ children, t.bare.render format depth =
        t.render format depth := fun t mem => (ih t mem).1 depth
    have childless : (children.map bare).isEmpty = children.isEmpty := List.isEmpty_map
    rw [bareNode, render, render, childless]
    split
    · rfl
    · refine congrArg concat (List.map_congr_left fun piece _ => ?_)
      cases piece with
      | child i => exact renderChildBare (each _) kind i i
      | nested path => exact renderNestedBare ih _ path
      | children glyph => exact renderChildrenBare (each _) kind glyph 0
      | glyph _ | symbol _ | name | value => rfl

/-! ### Names -/

theorem localNamesReduced (keeps : ∀ kind info, Naming.Renames kind info (own kind info)) (t : Term) :
    (t.reduced own).localNames = t.localNames := by
  induction t using nodeInduction with
  | node kind info children type? ih =>
    rw [reducedNode]
    exact localNamesMap (fun constant => (keeps kind info).others (by simp [constant])) ih

theorem typeHintsReduced (keeps : ∀ kind info, Naming.Renames kind info (own kind info)) (t : Term) :
    Naming.typeHints (t.reduced own) = Naming.typeHints t := by
  obtain ⟨kind, info, children, type?⟩ := t
  rw [reducedNode]
  by_cases bound : kind = .boundVar
  · subst bound
    rfl
  · rw [(keeps kind info).others fun same => absurd same bound]
    rfl

end Term

end ProofTutor
