import ProofTutor.Proofs.Term.Bare
import ProofTutor.Proofs.Term.FreeNumbers
import ProofTutor.Proofs.Term.Outline

/-!
The skeleton of a term is its kinds, its numbers and the identifiers of its local constants. Naming the
bound variables and renaming local constants leave it as it is, and it has the numbers of the binders.
-/
namespace ProofTutor

namespace Term

def skeleton (t : Term) : Term :=
  t.reduced fun kind info =>
    { identifier := if kind == .localConstant then info.identifier else none, number := info.number }

theorem skeletonNode (kind : Kind) (info : Info) (children : List Term) (type? : Option Term) :
    skeleton ⟨kind,info,children,type?⟩ =
      ⟨kind,{ identifier := if kind == .localConstant then info.identifier else none
              number := info.number },children.map skeleton,none⟩ :=
  reducedNode kind info children type?

structure Framed (a b : Term) : Prop where
  kind : a.kind = b.kind
  number : a.number? = b.number?
  identifier : a.kind = .localConstant → a.identifier? = b.identifier?
  children : a.children.map skeleton = b.children.map skeleton

theorem skeletonFramed {a b : Term} (same : a.skeleton = b.skeleton) : Framed a b := by
  obtain ⟨kind, info, children, type?⟩ := a
  obtain ⟨kind', info', children', type'?⟩ := b
  rw [skeletonNode, skeletonNode] at same
  simp only [Term.mk.injEq, Info.mk.injEq] at same
  obtain ⟨rfl, info, children, _⟩ := same
  refine ⟨rfl,info.2.2.2.1,fun constant => ?_,children⟩
  obtain rfl : kind = .localConstant := constant
  exact info.2.2.1

theorem Framed.childless {a b : Term} (framed : Framed a b) (leaf : a.children = []) :
    b.children = [] := by
  have children := framed.children
  rw [leaf] at children
  exact List.map_eq_nil_iff.mp children.symm

theorem Framed.child {a b : Term} (framed : Framed a b) {i : Nat} {u : Term}
    (here : b.children[i]? = some u) : ∃ t, a.children[i]? = some t ∧ t.skeleton = u.skeleton := by
  have same := congrArg (·[i]?) framed.children
  simp only [List.getElem?_map, here, Option.map_some] at same
  exact Option.map_eq_some_iff.mp same

theorem Framed.length {a b : Term} (framed : Framed a b) : a.children.length = b.children.length := by
  simpa using congrArg List.length framed.children

theorem skeletonMap {f : Term → Term} {kind : Kind} {info info' : Info} {children : List Term}
    {type? type?' : Option Term} (number : info'.number = info.number)
    (identifier : kind = .localConstant → info'.identifier = info.identifier)
    (below : ∀ t ∈ children, (f t).skeleton = t.skeleton) :
    skeleton ⟨kind,info',children.map f,type?'⟩ = skeleton ⟨kind,info,children,type?⟩ := by
  have same : (children.map f).map skeleton = children.map skeleton := by
    rw [List.map_map]
    exact List.map_congr_left below
  rw [skeletonNode, skeletonNode, same, number]
  by_cases constant : kind = .localConstant
  · rw [identifier constant]
  · simp [constant]

/-! ### What keeps it -/

theorem skeletonBare (t : Term) : t.bare.skeleton = t.skeleton := by
  induction t using nodeInduction with
  | node kind info children type? ih =>
    rw [bareNode]
    exact skeletonMap rfl (fun _ => rfl) ih

theorem skeletonRenamed (identifier name : String) (t : Term) :
    (t.renameLocal identifier name).skeleton = t.skeleton := by
  induction t using nodeInduction with
  | node kind info children type? ih =>
    obtain ⟨info', ⟨name', rfl⟩, _, same⟩ :=
      renameLocalNode identifier name kind info children type?
    rw [same]
    exact skeletonMap rfl (fun _ => rfl) ih

theorem skeletonNamed (naming : Naming) (outer : List String) (t : Term) :
    (naming.nameBound outer t).skeleton = t.skeleton := by
  have within : ∀ (scope : List Naming.Scoped) (renames : List (Nat × String)),
      (Naming.nameIn naming outer scope renames t).skeleton = t.skeleton := by
    induction t using nodeInduction with
    | node kind info children type? ih =>
      intro scope renames
      obtain ⟨own, inner, renames', same⟩ :=
        Naming.nameInNode naming outer scope renames kind info children type?
      obtain ⟨name, changed⟩ := (Naming.renamedInfo own ⟨kind,info,children,type?⟩).name
      rw [same, changed]
      exact skeletonMap rfl (fun _ => rfl) fun t mem => ih t mem inner renames'
  exact within [] []

/-! ### The numbers of binders -/

def binderNumbers (t : Term) : List Nat :=
  t.nodes.filterMap Naming.boundHere?

theorem binderNumbersNode (t : Term) :
    t.binderNumbers = (Naming.boundHere? t).toList ++ t.children.flatMap binderNumbers := by
  have below : (t.children.flatMap nodes).filterMap Naming.boundHere? =
      t.children.flatMap binderNumbers :=
    List.filterMap_flatMap
  rw [binderNumbers, nodesNode, List.filterMap_cons, ← below]
  cases Naming.boundHere? t <;> rfl

theorem boundHerePlain {t : Term} (plain : t.kind.isBinder = false ∨ t.children.length ≠ 3) :
    Naming.boundHere? t = none := by
  rw [Naming.boundHere?, boundNumber?, boundVar?]
  rcases plain with free | length
  · simp [free]
  · exact if_neg length

theorem boundHereBinder {t type v body : Term} (binds : t.kind.isBinder = true)
    (children : t.children = [type,v,body]) : Naming.boundHere? t = v.number? := by
  rw [Naming.boundHere?, boundNumber?, boundVar?, children, if_pos binds]
  rfl

theorem binderNumbersPlain {t : Term} (plain : t.kind.isBinder = false ∨ t.children.length ≠ 3) :
    t.binderNumbers = t.children.flatMap binderNumbers := by
  rw [binderNumbersNode, boundHerePlain plain]
  rfl

theorem binderNumbersBinder {t type v body : Term} (binds : t.kind.isBinder = true)
    (children : t.children = [type,v,body]) {n : Nat} (number : v.number? = some n)
    (leaf : v.children = []) : t.binderNumbers = n :: (type.binderNumbers ++ body.binderNumbers) := by
  have own : v.binderNumbers = [] := by rw [binderNumbersPlain (.inr (by simp [leaf])), leaf]; rfl
  rw [binderNumbersNode, boundHereBinder binds children, number, children]
  simp [own]

theorem binderNumbersSkeleton (t : Term) : t.skeleton.binderNumbers = t.binderNumbers := by
  induction t using nodeInduction with
  | node kind info children type? ih =>
    have number (t : Term) : t.skeleton.number? = t.number? := by
      obtain ⟨kind, info, children, type?⟩ := t
      rw [skeletonNode]
      rfl
    have below : (children.map skeleton).flatMap binderNumbers = children.flatMap binderNumbers := by
      rw [List.flatMap_map]
      exact List.flatMap_congr ih
    have own := boundNumberMap number kind info
      { identifier := if kind == .localConstant then info.identifier else none, number := info.number }
      children type? none
    rw [skeletonNode, binderNumbersNode, binderNumbersNode, Naming.boundHere?, Naming.boundHere?, own,
      List.length_map, below]

theorem binderNumbersSame {a b : Term} (same : a.skeleton = b.skeleton) :
    a.binderNumbers = b.binderNumbers := by
  rw [← binderNumbersSkeleton, same, binderNumbersSkeleton]

end Term

end ProofTutor
