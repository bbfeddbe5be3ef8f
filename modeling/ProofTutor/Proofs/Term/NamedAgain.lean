import ProofTutor.Proofs.Term.Bare
import ProofTutor.Proofs.Term.ChosenName

/-!
Naming a second time. A named term keeps its names when it is named again clear of the same names, and
what the types in it are makes no difference to its names.
-/
namespace ProofTutor

theorem Term.Formed.numbered {constant : Info → Prop} {above : List Nat} {t : Term}
    (formed : Formed False constant above t) : t.Numbered := by
  induction formed with
  | binder binds number fresh _ _ typed inside =>
    refine .node (by rintro rfl; cases binds) ?_
    simp only [List.forall_mem_cons]
    exact ⟨typed,.node (fun _ => ⟨_,number⟩) (by simp),inside,by simp⟩
  | node free own bound _ ih =>
    refine .node (fun same => ?_) ih
    obtain ⟨n, _, number⟩ := (bound same).resolve_left id
    exact ⟨n,number⟩

theorem Term.Formed.declared {constant : Info → Prop} {above : List Nat} {t : Term}
    (formed : Formed False constant above t) : Declared False above t := by
  induction formed with
  | binder binds number fresh typed _ ihType ihBody =>
    refine .binder binds rfl number fresh (.inr typed.numbered) ?_
    simp only [List.forall_mem_cons]
    exact ⟨ihType,.node (.inl rfl) (by simp),ihBody,by simp⟩
  | node free _ _ _ ih => exact .node free ih

theorem Term.numberedAnonymous {a a' : Term} (same : a'.anonymous = a.anonymous) :
    a'.Numbered ↔ a.Numbered := by
  rw [← numberedReduced unnamedRenames, ← anonymous, same, anonymous, numberedReduced unnamedRenames]

theorem Term.alphaEqAnonymous {a a' b b' : Term} (left : a'.anonymous = a.anonymous)
    (right : b'.anonymous = b.anonymous) (numbered : a.Numbered) (numbered' : b.Numbered) :
    a'.alphaEq b' = a.alphaEq b := by
  have first := (numberedAnonymous left).mpr numbered
  have second := (numberedAnonymous right).mpr numbered'
  rw [alphaEq, alphaEq, ← alphaEqReduced unnamedRenames a' [] b' first second,
    ← alphaEqReduced unnamedRenames a [] b numbered numbered', ← anonymous, ← anonymous, left, right]
  rfl

namespace Naming

/-! ### What naming leaves alone -/

theorem anonymousRenamed (renames : List (Nat × String)) (t : Term) :
    (renamed renames t).anonymous = t.anonymous := by
  induction t using Term.nodeInduction with
  | node kind info children type? ih =>
    have below : (children.map (renamed renames)).map Term.anonymous =
        children.map Term.anonymous := by
      rw [List.map_map]
      exact List.map_congr_left ih
    rw [renamedNode, Term.anonymousNode, Term.anonymousNode, below,
      Term.unnamedSame (renamedInfo renames ⟨kind,info,children,type?⟩)]

theorem anonymousNamed (naming : Naming) (outer : List String) (t : Term) :
    ∀ (scope : List Scoped) (renames : List (Nat × String)),
      (nameIn naming outer scope renames t).anonymous = t.anonymous := by
  induction t using Term.nodeInduction with
  | node kind info children type? ih =>
    intro scope renames
    obtain ⟨own, inner, renames', same⟩ :=
      nameInNode naming outer scope renames kind info children type?
    have below : (children.map (nameIn naming outer inner renames')).map Term.anonymous =
        children.map Term.anonymous := by
      rw [List.map_map]
      exact List.map_congr_left fun t mem => ih t mem inner renames'
    rw [same, Term.anonymousNode, Term.anonymousNode, below,
      Term.unnamedSame (renamedInfo own ⟨kind,info,children,type?⟩)]

theorem renamedLabel (renames : List (Nat × String)) (kind : Kind) (info : Info)
    (children children' : List Term) (type? type?' : Option Term) :
    (renamed renames ⟨kind,info,children,type?⟩).info =
      (renamed renames ⟨kind,info,children',type?'⟩).info := by
  induction renames generalizing info children children' with
  | nil => rfl
  | cons rename renames ih =>
    have step (t : Term) : renamed (rename :: renames) t =
        renamed renames (t.renameBound rename.1 rename.2) := rfl
    rw [step, step, Term.renameBound, Term.renameBound]
    exact ih _ _ _

theorem renamedAgain {renames : List (Nat × String)} (distinct : (renames.map Prod.fst).Nodup)
    (kind : Kind) (info : Info) (children children' : List Term) (type? type?' : Option Term) :
    (renamed renames ⟨kind,(renamed renames ⟨kind,info,children,type?⟩).info,children',type?'⟩).info =
      (renamed renames ⟨kind,info,children,type?⟩).info := by
  have first := renamedInfo renames ⟨kind,info,children,type?⟩
  have kept (same : (renamed renames ⟨kind,info,children,type?⟩).info = info) :
      (renamed renames ⟨kind,(renamed renames ⟨kind,info,children,type?⟩).info,children',type?'⟩).info =
        (renamed renames ⟨kind,info,children,type?⟩).info := by
    rw [same, renamedLabel renames kind info children' children type?' type?, same]
  by_cases free : kind = .boundVar → info.number = none
  · exact kept (first.others free)
  · obtain ⟨rfl, numbered⟩ := Classical.not_imp.mp free
    obtain ⟨n, number⟩ := Option.ne_none_iff_exists'.mp numbered
    by_cases other : n ∉ renames.map Prod.fst
    · exact kept (renamedOther other number)
    · obtain ⟨⟨_, name⟩, here, rfl⟩ := List.mem_map.mp (not_not.mp other)
      have own := renamedName distinct here (t := ⟨.boundVar,info,children,type?⟩) rfl number
      obtain ⟨shown, same⟩ := first.name
      rw [same] at own ⊢
      have again := renamedName distinct here
        (t := ⟨.boundVar,{ info with name := shown },children',type?'⟩) rfl number
      obtain ⟨shown', same'⟩ :=
        (renamedInfo renames ⟨.boundVar,{ info with name := shown },children',type?'⟩).name
      rw [same'] at again ⊢
      obtain rfl : shown' = shown := again.trans own.symm
      rfl

/-! ### The same names again -/

structure Scoped.Alike (s s' : Scoped) : Prop where
  name : s'.name = s.name
  type : s'.type.anonymous = s.type.anonymous
  numbered : s.type.Numbered

section Alike
variable {scope scope' : List Scoped} (alike : List.Forall₂ Scoped.Alike scope scope')
include alike

theorem namesAlike : scope'.map (·.name) = scope.map (·.name) := by
  induction alike with
  | nil => rfl
  | cons first _ ih => rw [List.map_cons, List.map_cons, first.name, ih]

theorem siblingsAlike {type type' : Term} (same : type'.anonymous = type.anonymous)
    (numbered : type.Numbered) : (scope'.filter fun s => s.type.alphaEq type').map (·.name) =
      (scope.filter fun s => s.type.alphaEq type).map (·.name) := by
  induction alike with
  | nil => rfl
  | @cons s s' scope scope' first _ ih =>
    have equal := Term.alphaEqAnonymous first.type same first.numbered numbered
    rw [List.filter_cons, List.filter_cons, equal]
    split
    · rw [List.map_cons, List.map_cons, first.name, ih]
    · exact ih

theorem nameOfAlike (naming : Naming) (outer : List String) {kind kind' : Kind} {info info' : Info}
    {type type' v v' body body' : Term} {type? type?' : Option Term}
    (typed : type'.anonymous = type.anonymous) (numbered : type.Numbered)
    (locals : body'.localNames = body.localNames) (proposed : v'.name? = v.name? ∨
      v'.name? = some (nameOf naming outer scope ⟨kind,info,[type,v,body],type?⟩)) :
    nameOf naming outer scope' ⟨kind',info',[type',v',body'],type?'⟩ =
      nameOf naming outer scope ⟨kind,info,[type,v,body],type?⟩ := by
  have hints : typeHints type' = typeHints type := by
    rw [← Term.typeHintsReduced Term.unnamedRenames type', ← Term.anonymous, typed, Term.anonymous,
      Term.typeHintsReduced Term.unnamedRenames]
  have own : nameOf naming outer scope' ⟨kind',info',[type',v',body'],type?'⟩ =
      naming.chooseName type v'.name?
        ((scope.filter fun s => s.type.alphaEq type).map (·.name))
        (outer ++ scope.map (·.name) ++ body.localNames) := by
    rw [← siblingsAlike alike typed numbered, ← namesAlike alike, ← locals]
    show naming.chooseName type' v'.name? _ _ = _
    rw [chooseName, chooseName, hints]
    rfl
  rw [own]
  rcases proposed with same | same
  · rw [same]
    rfl
  · rw [same]
    exact chooseNameAgain naming type v.name? _ _

theorem nameOfAgain (naming : Naming) (outer : List String) {renames : List (Nat × String)}
    {kind : Kind} {info : Info} {n : Nat} (other : n ∉ renames.map Prod.fst)
    {type type' v v' body body' : Term} {type? : Option Term} {name : String}
    (chosen : nameOf naming outer scope (renamed renames ⟨kind,info,[type,v,body],type?⟩) = name)
    (typed : type'.anonymous = type.anonymous) (numbered : type.Numbered)
    (number : v'.number? = some n) (shown : v'.name? = some name)
    (locals : body'.localNames = body.localNames) :
    nameOf naming outer scope' (renamed renames ⟨kind,info,[type',v',body'],type?⟩) = name := by
  have kept := renamedOther other number
  rw [renamedNode] at chosen ⊢
  refine (nameOfAlike alike naming outer ?_ ?_ ?_ (.inr ?_)).trans chosen
  · rw [anonymousRenamed, anonymousRenamed, typed]
  · exact (Term.numberedAnonymous (anonymousRenamed renames type)).mpr numbered
  · rw [renamedLocalNames, renamedLocalNames, locals]
  · exact ((congrArg Info.name kept).trans shown).trans (congrArg some chosen.symm)

end Alike

theorem nameInShown (naming : Naming) (outer : List String) (scope : List Scoped)
    {renames : List (Nat × String)} (distinct : (renames.map Prod.fst).Nodup) {n : Nat} {name : String}
    (mem : (n,name) ∈ renames) {v : Term} (own : v.kind = .boundVar) (number : v.number? = some n) :
    (nameIn naming outer scope renames v).name? = some name := by
  obtain ⟨kind, info, children, type?⟩ := v
  obtain rfl : kind = .boundVar := own
  rw [nameInPlain naming outer scope renames (.inl rfl)]
  exact renamedName distinct mem rfl number

structure Keyed (above : List Nat) (renames : List (Nat × String)) : Prop where
  numbers : renames.map Prod.fst = above.reverse
  distinct : above.Nodup

theorem Keyed.keys {above : List Nat} {renames : List (Nat × String)} (keyed : Keyed above renames) :
    (renames.map Prod.fst).Nodup := by
  rw [keyed.numbers, List.nodup_reverse]
  exact keyed.distinct

theorem Keyed.other {above : List Nat} {renames : List (Nat × String)} (keyed : Keyed above renames)
    {n : Nat} (fresh : n ∉ above) : n ∉ renames.map Prod.fst := by
  rwa [keyed.numbers, List.mem_reverse]

theorem Keyed.enter {above : List Nat} {renames : List (Nat × String)} (keyed : Keyed above renames)
    {n : Nat} (fresh : n ∉ above) (name : String) : Keyed (n :: above) (renames ++ [(n,name)]) where
  numbers := by
    rw [List.map_append, keyed.numbers, List.reverse_cons]
    rfl
  distinct := List.nodup_cons.mpr ⟨fresh,keyed.distinct⟩

theorem nameInAgain (naming : Naming) (outer : List String) {above : List Nat} {t : Term}
    (declared : Term.Declared False above t) :
    ∀ (scope scope' : List Scoped) (renames : List (Nat × String)), Keyed above renames →
      List.Forall₂ Scoped.Alike scope scope' →
      nameIn naming outer scope' renames (nameIn naming outer scope renames t) =
        nameIn naming outer scope renames t := by
  induction declared with
  | @binder above kind info type v body type? n binds own number fresh typed _ ih =>
    intro scope scope' renames keyed alike
    have numbered : type.Numbered := typed.resolve_left id
    generalize chosen : nameOf naming outer scope
      (renamed renames ⟨kind,info,[type,v,body],type?⟩) = name
    have inside := keyed.enter fresh name
    rw [nameInDeclared naming outer scope renames binds number chosen]
    generalize below : nameIn naming outer (scope ++ [⟨renamed renames type,name⟩])
      (renames ++ [(n,name)]) = named
    have typed' : (named type).anonymous = type.anonymous := by
      rw [← below]
      exact anonymousNamed naming outer type _ _
    have number' : (named v).number? = some n := by
      rw [← below, nameInNumber, number]
    have shown : (named v).name? = some name := by
      rw [← below]
      exact nameInShown naming outer _ inside.keys (by simp) own number
    have locals : (named body).localNames = body.localNames := by
      rw [← below]
      exact nameInLocalNames naming outer body _ _
    have again :=
      nameOfAgain alike naming outer (keyed.other fresh) chosen typed' numbered number' shown locals
    have second := nameInDeclared naming outer scope' renames binds number' again
    rw [List.map_cons, List.map_cons, List.map_cons, List.map_nil, second]
    have entry : Scoped.Alike ⟨renamed renames type,name⟩ ⟨renamed renames (named type),name⟩ :=
      ⟨rfl,by rw [anonymousRenamed, typed', anonymousRenamed],
        (Term.numberedAnonymous (anonymousRenamed renames type)).mpr numbered⟩
    have entries := List.rel_append alike (List.Forall₂.cons entry .nil)
    have each (t : Term) (mem : t ∈ [type,v,body]) := ih t mem _ _ _ inside entries
    rw [below] at each
    have children : [named type,named v,named body] = [type,v,body].map named := rfl
    rw [children, List.map_map]
    exact congrArg (Term.mk _ _ · _) (List.map_congr_left each)
  | @node above kind info children type? plain below ih =>
    intro scope scope' renames keyed alike
    rw [nameInPlain naming outer scope renames plain,
      nameInPlain naming outer scope' renames (by simpa using plain), renamedAgain keyed.keys,
      List.map_map]
    refine congrArg (Term.mk _ _ · _) (List.map_congr_left fun t mem => ?_)
    exact ih t mem scope scope' renames keyed alike

theorem nameBoundAgain (naming : Naming) (outer : List String) {t : Term}
    (declared : Term.Declared False [] t) :
    naming.nameBound outer (naming.nameBound outer t) = naming.nameBound outer t :=
  nameInAgain naming outer declared [] [] [] ⟨rfl,List.nodup_nil⟩ .nil

/-! ### Types -/

theorem bareRenamed (renames : List (Nat × String)) (t : Term) :
    (renamed renames t).bare = renamed renames t.bare := by
  induction t using Term.nodeInduction with
  | node kind info children type? ih =>
    have below : (children.map (renamed renames)).map Term.bare =
        (children.map Term.bare).map (renamed renames) := by
      rw [List.map_map, List.map_map]
      exact List.map_congr_left ih
    have own := renamedNode renames kind info (children.map Term.bare) none
    rw [renamedNode, Term.bareNode, Term.bareNode, own, below,
      renamedLabel renames kind info children (children.map Term.bare) type? none]

theorem anonymousBare (t : Term) : t.bare.anonymous = t.anonymous := by
  induction t using Term.nodeInduction with
  | node kind info children type? ih =>
    have below : (children.map Term.bare).map Term.anonymous = children.map Term.anonymous := by
      rw [List.map_map]
      exact List.map_congr_left ih
    rw [Term.bareNode, Term.anonymousNode, Term.anonymousNode, below]

theorem boundHereBare (t : Term) : boundHere? t.bare = boundHere? t := by
  obtain ⟨kind, info, children, type?⟩ := t
  have same := Term.boundNumberMap (f := Term.bare) (Term.reducedNumber Term.bareRenames) kind info info
    children type? none
  rw [Term.bareNode, boundHere?, boundHere?, List.length_map, same]

-- only a node with three children binds a variable
theorem boundHereThree {t : Term} {n : Nat} (bound : boundHere? t = some n) : t.children.length = 3 := by
  rw [boundHere?] at bound
  by_contra other
  rw [if_neg (by simpa using other)] at bound
  cases bound

theorem nameOfBare (naming : Naming) (outer : List String) {scope scope' : List Scoped}
    (alike : List.Forall₂ Scoped.Alike scope scope') (renames : List (Nat × String)) {kind : Kind}
    {info : Info} {type v body : Term} {type? : Option Term} (numbered : type.Numbered) :
    nameOf naming outer scope' (renamed renames ⟨kind,info,[type.bare,v.bare,body.bare],none⟩) =
      nameOf naming outer scope (renamed renames ⟨kind,info,[type,v,body],type?⟩) := by
  rw [renamedNode renames kind info [type,v,body],
    renamedNode renames kind info [type.bare,v.bare,body.bare]]
  refine nameOfAlike alike naming outer ?_ ?_ ?_ (.inl ?_)
  · rw [anonymousRenamed, anonymousRenamed, anonymousBare]
  · exact (Term.numberedAnonymous (anonymousRenamed renames type)).mpr numbered
  · rw [renamedLocalNames, renamedLocalNames]
    exact Term.localNamesReduced Term.bareRenames body
  · rw [← bareRenamed, Term.bareName]

theorem nameInBare (naming : Naming) (outer : List String) (t : Term) :
    ∀ (scope scope' : List Scoped) (renames : List (Nat × String)), t.Numbered →
      List.Forall₂ Scoped.Alike scope scope' →
      (nameIn naming outer scope renames t).bare = nameIn naming outer scope' renames t.bare := by
  induction t using Term.nodeInduction with
  | node kind info children type? ih =>
    intro scope scope' renames numbered alike
    have each : ∀ t ∈ children, t.Numbered := by
      cases numbered with
      | node _ below => exact below
    have below {scope scope' : List Scoped} (alike : List.Forall₂ Scoped.Alike scope scope')
        (renames : List (Nat × String)) :
        (children.map (nameIn naming outer scope renames)).map Term.bare =
          (children.map Term.bare).map (nameIn naming outer scope' renames) := by
      rw [List.map_map, List.map_map]
      exact List.map_congr_left fun t mem => ih t mem scope scope' renames (each t mem) alike
    have label (renames : List (Nat × String)) :=
      renamedLabel renames kind info children (children.map Term.bare) type? none
    have here : boundHere? (renamed renames ⟨kind,info,children.map Term.bare,none⟩) =
        boundHere? (renamed renames ⟨kind,info,children,type?⟩) := by
      rw [← Term.bareNode kind info children type?, ← bareRenamed, boundHereBare]
    cases bound : boundHere? (renamed renames ⟨kind,info,children,type?⟩) with
    | none =>
      rw [nameInUnnamed naming outer scope bound, Term.bareNode, Term.bareNode,
        nameInUnnamed naming outer scope' (here.trans bound), below alike, label]
    | some n =>
      have first := renamedNode renames kind info children type?
      have second := renamedNode renames kind info (children.map Term.bare) none
      have three : children.length = 3 := by
        have all := boundHereThree bound
        rwa [first, List.length_map] at all
      obtain ⟨type, v, body, rfl⟩ := List.length_eq_three.mp three
      have numbered' : type.Numbered := each type List.mem_cons_self
      generalize chosen : nameOf naming outer scope
        (renamed renames ⟨kind,info,[type,v,body],type?⟩) = name
      have same := (nameOfBare naming outer alike renames numbered').trans chosen
      have entry : Scoped.Alike
          ⟨(renamed renames ⟨kind,info,[type,v,body],type?⟩).children[0]?.getD Term.untyped,name⟩
          ⟨(renamed renames ⟨kind,info,[type,v,body].map Term.bare,none⟩).children[0]?.getD
            Term.untyped,name⟩ := by
        rw [first, second]
        refine ⟨rfl,?_,(Term.numberedAnonymous (anonymousRenamed renames type)).mpr numbered'⟩
        exact (anonymousRenamed renames _).trans
          ((anonymousBare type).trans (anonymousRenamed renames type).symm)
      rw [nameInNamed naming outer scope bound chosen, Term.bareNode, Term.bareNode,
        nameInNamed naming outer scope' (here.trans bound) same,
        below (List.rel_append alike (List.Forall₂.cons entry .nil)), label]

theorem nameBoundBare (naming : Naming) (outer : List String) {t : Term} (numbered : t.Numbered) :
    (naming.nameBound outer t).bare = naming.nameBound outer t.bare :=
  nameInBare naming outer t [] [] [] numbered .nil

end Naming

end ProofTutor
