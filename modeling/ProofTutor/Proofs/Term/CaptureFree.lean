import ProofTutor.Proofs.Term.NamedAgain
import ProofTutor.Proofs.Term.Skeleton

/-!
Naming without capture. Wherever binders declare numbered variables with numbers of their own, naming
changes nothing but names of numbered variables. Each binder gets one name that all occurrences of its
number below it carry, apart from the names outside, those of the binders around it and those of the
local constants in its body. Named again, a term keeps its names, unless a variable without a number,
which is compared by its name, stands in the type of another one.
-/
namespace ProofTutor

namespace Term

structure Declares (t : Term) : Prop where
  numbered : ∀ u ∈ t.nodes, u.children.length = 3 → ∀ v ∈ u.boundVar?,
    v.kind = .boundVar ∧ v.number?.isSome
  distinct : t.binderNumbers.Nodup

instance (t : Term) : Decidable t.Declares :=
  decidable_of_iff ((∀ u ∈ t.nodes, u.children.length = 3 → ∀ v ∈ u.boundVar?,
      v.kind = .boundVar ∧ v.number?.isSome) ∧ t.binderNumbers.Nodup)
    ⟨fun ⟨numbered, distinct⟩ => ⟨numbered,distinct⟩,
      fun declares => ⟨declares.numbered,declares.distinct⟩⟩

def NumberedTypes (t : Term) : Prop :=
  ∀ u ∈ t.nodes, u.kind.isBinder = true → u.children.length = 3 → ∀ type ∈ u.children[0]?,
    ∀ v ∈ type.nodes, v.kind = .boundVar → v.number?.isSome

instance (t : Term) : Decidable t.NumberedTypes :=
  inferInstanceAs (Decidable (∀ u ∈ t.nodes, u.kind.isBinder = true → u.children.length = 3 →
    ∀ type ∈ u.children[0]?, ∀ v ∈ type.nodes, v.kind = .boundVar → v.number?.isSome))

inductive NamedApart : Term → Term → Prop where
  | node {kind : Kind} {info info' : Info} {children children' : List Term} {type? : Option Term}
      (own : Naming.Renames kind info info') (below : List.Forall₂ NamedApart children children') :
      NamedApart ⟨kind,info,children,type?⟩ ⟨kind,info',children',type?⟩

/-- Every binder with three children has one name, which all variables with its number below it carry.
It is apart from the names in `outer`, from those of the enclosing such binders, `above`, and from those
of the local constants in its body. -/
inductive CaptureFree (outer : List String) : List String → Term → Prop where
  | binder {above : List String} {t type v body : Term} {n : Nat} {name : String}
      (binds : t.kind.isBinder = true) (children : t.children = [type,v,body])
      (own : v.kind = .boundVar) (number : v.number? = some n)
      (carried : ∀ u ∈ t.nodes, u.kind = .boundVar → u.number? = some n → u.name? = some name)
      (clear : name ∉ outer) (apart : name ∉ above) (locals : name ∉ body.localNames)
      (below : ∀ u ∈ t.children, CaptureFree outer (name :: above) u) : CaptureFree outer above t
  | node {above : List String} {t : Term} (plain : t.kind.isBinder = false ∨ t.children.length ≠ 3)
      (below : ∀ u ∈ t.children, CaptureFree outer above u) : CaptureFree outer above t

/-! ### Declared variables -/

theorem Declares.child {t u : Term} (declares : t.Declares) (mem : u ∈ t.children) : u.Declares where
  numbered w inside := declares.numbered w (nodesBelow mem inside)
  distinct := by
    have distinct := declares.distinct
    rw [binderNumbersNode] at distinct
    exact (List.nodup_flatMap.mp (List.nodup_append.mp distinct).2.1).1 u mem

theorem NumberedTypes.child {t u : Term} (typed : t.NumberedTypes) (mem : u ∈ t.children) :
    u.NumberedTypes :=
  fun w inside => typed w (nodesBelow mem inside)

theorem numberedOfNodes (t : Term) (numbers : ∀ u ∈ t.nodes, u.kind = .boundVar → u.number?.isSome) :
    t.Numbered := by
  induction t using nodeInduction with
  | node kind info children type? ih =>
    have below (u : Term) (mem : u ∈ children) : u.Numbered :=
      ih u mem fun w inside => numbers w (nodesBelow (t := ⟨kind,info,children,type?⟩) mem inside)
    have root : (⟨kind,info,children,type?⟩ : Term) ∈ nodes ⟨kind,info,children,type?⟩ := by
      rw [nodesNode]
      exact List.mem_cons_self
    exact .node (fun bound => Option.isSome_iff_exists.mp (numbers _ root bound)) below

theorem Declares.declared {mixed : Prop} (t : Term) : ∀ above : List Nat, t.Declares →
    (mixed ∨ t.NumberedTypes) → (∀ n ∈ above, n ∉ t.binderNumbers) → Declared mixed above t := by
  induction t using nodeInduction with
  | node kind info children type? ih =>
    intro above declares typed apart
    have root : (⟨kind,info,children,type?⟩ : Term) ∈ nodes ⟨kind,info,children,type?⟩ := by
      rw [nodesNode]
      exact List.mem_cons_self
    have below {above : List Nat} (t : Term) (mem : t ∈ children)
        (apart : ∀ n ∈ above, n ∉ t.binderNumbers) : Declared mixed above t :=
      ih t mem above (declares.child mem) (typed.imp_right (·.child mem)) apart
    have numbers := binderNumbersNode ⟨kind,info,children,type?⟩
    by_cases plain : kind.isBinder = false ∨ children.length ≠ 3
    · refine .node plain fun t mem => below t mem fun n listed inside => apart n listed ?_
      rw [numbers]
      exact List.mem_append_right _ (List.mem_flatMap.mpr ⟨t,mem,inside⟩)
    · rw [not_or, Bool.not_eq_false, not_not] at plain
      obtain ⟨binds, three⟩ := plain
      obtain ⟨type, v, body, rfl⟩ := List.length_eq_three.mp three
      have bound : boundVar? ⟨kind,info,[type,v,body],type?⟩ = some v := if_pos binds
      obtain ⟨own, numbered⟩ := declares.numbered _ root rfl v bound
      obtain ⟨n, number⟩ := Option.isSome_iff_exists.mp numbered
      have here : Naming.boundHere? ⟨kind,info,[type,v,body],type?⟩ = some n :=
        (boundHereBinder binds rfl).trans number
      rw [here] at numbers
      have distinct := declares.distinct
      rw [numbers] at distinct apart
      refine .binder binds own number (fun listed => apart n listed List.mem_cons_self)
        (typed.imp_right fun typed => ?_) fun t mem => below t mem fun m listed inside => ?_
      · exact numberedOfNodes type (typed _ root binds rfl type rfl)
      · have among := List.mem_flatMap.mpr ⟨t,mem,inside⟩
        rcases List.mem_cons.mp listed with rfl | around
        · exact (List.nodup_cons.mp distinct).1 among
        · exact apart m around (List.mem_cons_of_mem _ among)

end Term

namespace Naming

/-! ### What naming changes -/

theorem nameInApart (naming : Naming) (outer : List String) (t : Term) :
    ∀ (scope : List Scoped) (renames : List (Nat × String)),
      Term.NamedApart t (nameIn naming outer scope renames t) := by
  induction t using Term.nodeInduction with
  | node kind info children type? ih =>
    intro scope renames
    obtain ⟨own, inner, renames', same⟩ :=
      nameInNode naming outer scope renames kind info children type?
    rw [same]
    refine .node (renamedInfo own ⟨kind,info,children,type?⟩) ?_
    rw [List.forall₂_map_right_iff, List.forall₂_same]
    exact fun t mem => ih t mem inner renames'

theorem nameInCarried {mixed : Prop} (naming : Naming) (outer : List String) {n : Nat} {name : String}
    {above : List Nat} {t : Term} (declared : Term.Declared mixed above t) :
    ∀ (scope : List Scoped) (renames : List (Nat × String)), Keyed above renames →
      (n,name) ∈ renames → ∀ u ∈ (nameIn naming outer scope renames t).nodes, u.kind = .boundVar →
        u.number? = some n → u.name? = some name := by
  induction declared with
  | @binder above kind info type v body type? m binds _ number fresh _ _ ih =>
    intro scope renames keyed mem u inside bound own
    obtain ⟨info', entry, _, _, _, same⟩ := nameInBinder naming outer scope renames binds
      number info type body type?
    rw [same, Term.nodesNode] at inside
    rcases List.mem_cons.mp inside with rfl | below
    · obtain rfl : kind = .boundVar := bound
      cases binds
    · obtain ⟨_, among, within⟩ := List.mem_flatMap.mp below
      obtain ⟨t, child, rfl⟩ := List.mem_map.mp among
      exact ih t child _ _ (keyed.enter fresh entry.name) (List.mem_append_left _ mem) u within bound own
  | @node above kind info children type? plain _ ih =>
    intro scope renames keyed mem u inside bound own
    rw [nameInPlain naming outer scope renames plain, Term.nodesNode] at inside
    rcases List.mem_cons.mp inside with rfl | below
    · obtain ⟨other, same⟩ := (renamedInfo renames ⟨kind,info,children,type?⟩).name
      refine renamedName keyed.keys mem (t := ⟨kind,info,children,type?⟩) bound ?_
      rw [Term.number?, same] at own
      exact own
    · obtain ⟨_, among, within⟩ := List.mem_flatMap.mp below
      obtain ⟨t, child, rfl⟩ := List.mem_map.mp among
      exact ih t child scope renames keyed mem u within bound own

theorem nameInCaptureFree {mixed : Prop} (naming : Naming) (outer : List String) {above : List Nat}
    {t : Term} (declared : Term.Declared mixed above t) :
    ∀ (scope : List Scoped) (renames : List (Nat × String)), Keyed above renames →
      Term.CaptureFree outer (scope.map (·.name)).reverse (nameIn naming outer scope renames t) := by
  induction declared with
  | @binder above kind info type v body type? n binds own number fresh _ below ih =>
    intro scope renames keyed
    obtain ⟨info', entry, clear, apart, locals, same⟩ := nameInBinder naming outer scope renames binds
      number info type body type?
    have inside := keyed.enter fresh entry.name
    have last : (n,entry.name) ∈ renames ++ [(n,entry.name)] := by simp
    rw [same]
    refine .binder binds rfl ?_ ?_ ?_ clear (by simpa using apart) ?_ ?_ (n := n)
    · obtain ⟨kind, info, children, type?⟩ := v
      obtain ⟨_, _, _, shown⟩ := nameInNode naming outer (scope ++ [entry])
        (renames ++ [(n,entry.name)]) kind info children type?
      rw [shown]
      exact own
    · rw [nameInNumber]
      exact number
    · intro u among bound numbered
      rw [Term.nodesNode] at among
      rcases List.mem_cons.mp among with rfl | deep
      · obtain rfl : kind = .boundVar := bound
        cases binds
      · obtain ⟨_, child, within⟩ := List.mem_flatMap.mp deep
        obtain ⟨t, mem, rfl⟩ := List.mem_map.mp child
        exact nameInCarried naming outer (below t mem) _ _ inside last u within bound numbered
    · rw [nameInLocalNames]
      exact locals
    · intro u among
      obtain ⟨t, mem, rfl⟩ := List.mem_map.mp among
      have named := ih t mem (scope ++ [entry]) _ inside
      rw [List.map_append, List.reverse_append] at named
      exact named
  | @node above kind info children type? plain _ ih =>
    intro scope renames keyed
    rw [nameInPlain naming outer scope renames plain]
    refine .node (by simpa using plain) fun u among => ?_
    obtain ⟨t, mem, rfl⟩ := List.mem_map.mp among
    exact ih t mem scope renames keyed

theorem nameBoundAlphaEq (naming : Naming) (outer : List String) (t : Term) :
    (naming.nameBound outer t).alphaEq t = true :=
  Term.alphaEqMatched _ [] t (by simp) (anonymousNamed naming outer t [] [])

/-- Naming is free of capture and keeps what the term means, and where no variable without a number
stands in the type of a declared one, it changes nothing the second time. -/
theorem captureFreeNaming (naming : Naming) (outer : List String) {t : Term} (declares : t.Declares) :
    Term.NamedApart t (naming.nameBound outer t) ∧ (naming.nameBound outer t).alphaEq t = true ∧
      Term.CaptureFree outer [] (naming.nameBound outer t) ∧ (t.NumberedTypes →
        naming.nameBound outer (naming.nameBound outer t) = naming.nameBound outer t) := by
  refine ⟨nameInApart naming outer t [] [],nameBoundAlphaEq naming outer t,?_,fun typed => ?_⟩
  · exact nameInCaptureFree naming outer (declares.declared t [] (.inl trivial) (by simp)) [] []
      ⟨rfl,List.nodup_nil⟩
  · exact nameBoundAgain naming outer (declares.declared t [] (.inr typed) (by simp))

def ownTyped : Term :=
  let own : Term := ⟨.boundVar,{ name := some "a", number := some 0 },[],none⟩
  let next : Term := ⟨.boundVar,{ name := some "b", number := some 1 },[],none⟩
  ⟨.universal,{},[own,own,⟨.universal,{},[⟨.boundVar,.named "a",[],none⟩,next,.leaf .truth],none⟩],none⟩

/-- Once named, the variable has no longer the name in the type of the next one, which is then not
counted as its sibling. -/
theorem ownTypedRenamed : ¬ ∀ naming outer (t : Term), t.Declares →
    nameBound naming outer (nameBound naming outer t) = nameBound naming outer t := by
  intro every
  have same := congrArg Term.boundNames (every { useProverNames := false } [] ownTyped (by decide))
  revert same
  decide +kernel

def describedSiblings : Term :=
  let described (number : Nat) : Term :=
    .bind .existential (.boundVar "a" number .sort) (.boundVar "c" number .sort)
  .bind .universal (.boundVar "b" 0 (described 2)) (.bind .universal (.boundVar "b" 1 (described 3))
    (.binary .equals (.boundVar "b" 0 .sort) (.localConstant "z" "1" .sort)))

theorem describedNamed :
    let naming : Naming := { useProverNames := false }
    describedSiblings.Declares ∧ describedSiblings.NumberedTypes ∧
      Term.NamedApart describedSiblings (naming.nameBound ["x"] describedSiblings) ∧
      (naming.nameBound ["x"] describedSiblings).alphaEq describedSiblings = true ∧
      Term.CaptureFree ["x"] [] (naming.nameBound ["x"] describedSiblings) ∧
      naming.nameBound ["x"] (naming.nameBound ["x"] describedSiblings) =
        naming.nameBound ["x"] describedSiblings := by
  have declares : describedSiblings.Declares := by decide
  have typed : describedSiblings.NumberedTypes := by decide
  obtain ⟨apart, equal, free, again⟩ := captureFreeNaming { useProverNames := false } ["x"] declares
  exact ⟨declares,typed,apart,equal,free,again typed⟩

end Naming

end ProofTutor
