import ProofTutor.Dump.Goals
import ProofTutor.Proofs.Term.Alpha

/-!
The outline of a term is its kinds and the identifiers of its local constants. Terms with one outline
are compared alike however the local constants that have identifiers are named.
-/
namespace ProofTutor

namespace Term

mutual

def outline : Term → Term
  | ⟨kind, info, children, _⟩ =>
    { kind
      info := { identifier := if kind == .localConstant then info.identifier else none }
      children := outlines children }

def outlines : List Term → List Term
  | [] => []
  | t :: ts => outline t :: outlines ts

end

theorem outlinesMap (ts : List Term) : outlines ts = ts.map outline := by
  induction ts with
  | nil => rfl
  | cons t ts ih => rw [outlines, ih, List.map_cons]

theorem outlineNode (kind : Kind) (info : Info) (children : List Term) (type? : Option Term) :
    outline ⟨kind,info,children,type?⟩ =
      ⟨kind,{ identifier := if kind == .localConstant then info.identifier else none },
        children.map outline,none⟩ := by
  rw [outline, outlinesMap]

theorem outlineEq {a b : Term} : a.outline = b.outline ↔ a.kind = b.kind ∧
    (a.kind = .localConstant → a.identifier? = b.identifier?) ∧
      a.children.map outline = b.children.map outline := by
  obtain ⟨kind, info, children, type?⟩ := a
  obtain ⟨kind', info', children', type'?⟩ := b
  rw [outlineNode, outlineNode]
  constructor
  · intro same
    simp only [Term.mk.injEq, Info.mk.injEq] at same
    obtain ⟨rfl, info, children, _⟩ := same
    refine ⟨rfl,fun constant => ?_,children⟩
    obtain rfl : kind = .localConstant := constant
    exact info.2.2.1
  · rintro ⟨same, identifier, children⟩
    obtain rfl : kind = kind' := same
    by_cases constant : kind = .localConstant
    · have own : info.identifier = info'.identifier := identifier constant
      simp only at children
      rw [children, own]
    · simp only at children
      simp [children, constant]

theorem renameLocalInMap (identifier name : String) (ts : List Term) :
    renameLocalIn identifier name ts = ts.map (renameLocal identifier name) := by
  induction ts with
  | nil => rfl
  | cons t ts ih => rw [renameLocalIn, ih, List.map_cons]

theorem renameLocalNode (identifier name : String) (kind : Kind) (info : Info)
    (children : List Term) (type? : Option Term) :
    ∃ info' : Info, (∃ name, info' = { info with name }) ∧
      ((kind = .localConstant → info.identifier = none) → info' = info) ∧
        renameLocal identifier name ⟨kind,info,children,type?⟩ =
          ⟨kind,info',children.map (renameLocal identifier name),type?⟩ := by
  rw [renameLocal, renameLocalInMap]
  refine ⟨_,?_,?_,rfl⟩
  · split
    · exact ⟨some name,rfl⟩
    · exact ⟨info.name,rfl⟩
  · intro free
    rw [if_neg]
    intro own
    obtain ⟨constant, same⟩ := Bool.and_eq_true_iff.mp own
    rw [free (eq_of_beq constant)] at same
    cases same

theorem outlineRenamed (identifier name : String) (t : Term) :
    (t.renameLocal identifier name).outline = t.outline := by
  induction t using nodeInduction with
  | node kind info children type? ih =>
    obtain ⟨info', ⟨name', rfl⟩, _, same⟩ :=
      renameLocalNode identifier name kind info children type?
    have below : (children.map (renameLocal identifier name)).map outline = children.map outline := by
      rw [List.map_map]
      exact List.map_congr_left ih
    rw [same, outlineNode, outlineNode, below]

theorem renamedNumber (identifier name : String) (t : Term) :
    (t.renameLocal identifier name).number? = t.number? := by
  obtain ⟨kind, info, children, type?⟩ := t
  obtain ⟨info', ⟨name', rfl⟩, _, same⟩ := renameLocalNode identifier name kind info children type?
  rw [same]
  rfl

theorem labelLocal {pairs : List (Nat × Nat)} {kind : Kind} {info info' : Info}
    {children children' : List Term} {type? : Option Term} {b : Term} {name : Option String}
    (changed : info' = { info with name })
    (kept : (kind = .localConstant → info.identifier = none) → info' = info)
    (identifier : kind = .localConstant → info.identifier = b.identifier?) :
    sameLabel pairs ⟨kind,info',children',type?⟩ b =
      sameLabel pairs ⟨kind,info,children,type?⟩ b := by
  by_cases free : kind = .localConstant → info.identifier = none
  · rw [kept free]
    rfl
  · obtain ⟨constant, named⟩ := Classical.not_imp.mp free
    obtain ⟨own, here⟩ := Option.ne_none_iff_exists'.mp named
    have other : b.identifier? = some own := (identifier constant).symm.trans here
    rw [sameLabel, sameLabel, constant, changed]
    simp only [identifier?, here] at other ⊢
    rw [other]

theorem alphaEqAllOutlined {pairs : List (Nat × Nat)} {f : Term → Term} {as bs : List Term}
    (same : as.map outline = bs.map outline)
    (each : ∀ a ∈ as, ∀ b, a.outline = b.outline → alphaEqIn pairs (f a) b = alphaEqIn pairs a b) :
    alphaEqAll pairs (as.map f) bs = alphaEqAll pairs as bs := by
  induction as generalizing bs with
  | nil => rfl
  | cons a as ih =>
    obtain ⟨first, others⟩ := List.forall_mem_cons.mp each
    cases bs with
    | nil => cases same
    | cons b bs =>
      obtain ⟨here, rest⟩ := List.cons.inj same
      rw [List.map_cons, alphaEqAll, alphaEqAll, first b here, ih rest others]

theorem alphaEqLocal (identifier name : String) (a : Term) :
    ∀ (pairs : List (Nat × Nat)) (b : Term), a.outline = b.outline →
      alphaEqIn pairs (a.renameLocal identifier name) b = alphaEqIn pairs a b := by
  induction a using nodeInduction with
  | node kind info children type? ih =>
    intro pairs b same
    obtain ⟨_, own, below⟩ := outlineEq.mp same
    obtain ⟨info', ⟨name', changed⟩, kept, renamed⟩ :=
      renameLocalNode identifier name kind info children type?
    have bound := boundNumberMap (renamedNumber identifier name) kind info info' children type? type?
    rw [renamed, alphaEqNode, alphaEqNode, pairBinders, pairBinders, bound,
      labelLocal changed kept own, alphaEqAllOutlined below fun a mem b => ih a mem _ b]

end Term

namespace Dump

theorem alphaEqRenamed (renamings : List Renaming) {a b : Term} (same : a.outline = b.outline)
    (pairs : List (Nat × Nat)) :
    Term.alphaEqIn pairs (renameAll renamings a) b = Term.alphaEqIn pairs a b := by
  induction renamings generalizing a with
  | nil => rfl
  | cons r renamings ih =>
    have renamed := (Term.outlineRenamed r.identifier r.name a).trans same
    exact (ih renamed).trans (Term.alphaEqLocal r.identifier r.name a pairs b same)

end Dump

end ProofTutor
