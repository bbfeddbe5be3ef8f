import ProofTutor.Proofs.Dump.Hygiene
import ProofTutor.Proofs.Dump.Rebuilding
import ProofTutor.Proofs.Term.Skeleton

/-!
Lexical scoping of decoded terms. A local constant is the variable of the innermost binder in whose body
it stands and whose variable has its identifier, and where there is none it stays a local constant. The
numbers of binders are given out once, in all goals of two dumps together.
-/
namespace ProofTutor

def Tree.refersTo? (scope : List (String × Nat)) (info : Info) : Option Nat :=
  info.identifier.bind fun identifier => (scope.find? (·.1 == identifier)).map (·.2)

/-- A term is what lexical scoping makes of a tree. `scope` lists the variables in whose bodies the tree
stands by identifier and number, innermost first. A variable is in scope in the third child of its binder
only, and what stands below a local constant or a variable is not part of the term. -/
inductive Tree.Scopes : List (String × Nat) → Tree → Term → Prop where
  | bound {scope : List (String × Nat)} {pairs : List (String × String)} {children : List Tree}
      {t : Term} {n : Nat} (found : Tree.refersTo? scope (Info.ofPairs pairs) = some n)
      (kind : t.kind = .boundVar) (number : t.number? = some n) (leaf : t.children = []) :
      Scopes scope ⟨Kind.localConstant.tag,pairs,children⟩ t
  | free {scope : List (String × Nat)} {pairs : List (String × String)} {children : List Tree}
      {t : Term} (outside : Tree.refersTo? scope (Info.ofPairs pairs) = none)
      (kind : t.kind = .localConstant) (same : t.identifier? = (Info.ofPairs pairs).identifier)
      (leaf : t.children = []) : Scopes scope ⟨Kind.localConstant.tag,pairs,children⟩ t
  | binder {scope : List (String × Nat)} {kind : Kind} {pairs : List (String × String)}
      {typeTree variableTree bodyTree : Tree} {t type v body : Term} {n : Nat}
      (binds : kind.isBinder = true) (own : t.kind = kind) (children : t.children = [type,v,body])
      (bound : v.kind = .boundVar) (number : v.number? = some n) (leaf : v.children = [])
      (typed : Scopes scope typeTree type)
      (inside : Scopes ((Info.ofPairs variableTree.info).identifier.toList.map (·,n) ++ scope)
        bodyTree body) : Scopes scope ⟨kind.tag,pairs,[typeTree,variableTree,bodyTree]⟩ t
  | compound {scope : List (String × Nat)} {kind : Kind} {pairs : List (String × String)}
      {trees : List Tree} {t : Term} (other : kind ≠ .localConstant)
      (plain : kind.isBinder = false ∨ trees.length ≠ 3) (own : t.kind = kind)
      (length : t.children.length = trees.length)
      (below : ∀ (i : Nat) (tree : Tree) (u : Term), trees[i]? = some tree →
        t.children[i]? = some u → Scopes scope tree u) : Scopes scope ⟨kind.tag,pairs,trees⟩ t
  | unknown {scope : List (String × Nat)} {tag : String} {pairs : List (String × String)}
      {trees : List Tree} {t : Term} (tagged : Kind.ofTag? tag = none) (own : t.kind = .rawCode)
      (length : t.children.length = trees.length)
      (below : ∀ (i : Nat) (tree : Tree) (u : Term), trees[i]? = some tree →
        t.children[i]? = some u → Scopes scope tree u) : Scopes scope ⟨tag,pairs,trees⟩ t

inductive Term.Bound : List Nat → Term → Prop where
  | binder {above : List Nat} {t type v body : Term} {n : Nat} (binds : t.kind.isBinder = true)
      (children : t.children = [type,v,body]) (bound : v.kind = .boundVar)
      (number : v.number? = some n) (leaf : v.children = []) (typed : Bound above type)
      (inside : Bound (n :: above) body) : Bound above t
  | node {above : List Nat} {t : Term} (plain : t.kind.isBinder = false ∨ t.children.length ≠ 3)
      (bound : t.kind = .boundVar → ∃ n ∈ above, t.number? = some n)
      (below : ∀ u ∈ t.children, Bound above u) : Bound above t

namespace Tree

theorem Scopes.retain {scope : List (String × Nat)} {tree : Tree} {t : Term}
    (scopes : Scopes scope tree t) : ∀ {t' : Term}, t'.skeleton = t.skeleton → Scopes scope tree t' := by
  induction scopes with
  | bound found kind number leaf =>
    intro t' same
    have framed := Term.skeletonFramed same.symm
    exact .bound found (framed.kind ▸ kind) (framed.number ▸ number) (framed.childless leaf)
  | free outside kind identifier leaf =>
    intro t' same
    have framed := Term.skeletonFramed same.symm
    exact .free outside (framed.kind ▸ kind) ((framed.identifier kind).symm.trans identifier)
      (framed.childless leaf)
  | @binder _ _ _ _ _ _ t type v body n binds own children isBound number leaf _ _ ihType ihBody =>
    intro t' same
    have framed := Term.skeletonFramed same.symm
    have parts := framed.children
    rw [children] at parts
    obtain ⟨type', rest, parts', typeSame, restSame⟩ := List.map_eq_cons_iff.mp parts.symm
    obtain ⟨v', rest', rfl, ownSame, restSame'⟩ := List.map_eq_cons_iff.mp restSame
    obtain ⟨body', last, rfl, bodySame, lastSame⟩ := List.map_eq_cons_iff.mp restSame'
    obtain rfl := List.map_eq_nil_iff.mp lastSame
    have ownFramed := Term.skeletonFramed ownSame.symm
    exact .binder binds (framed.kind ▸ own) parts' (ownFramed.kind ▸ isBound)
      (ownFramed.number ▸ number) (ownFramed.childless leaf) (ihType typeSame) (ihBody bodySame)
  | compound other plain own length _ ih =>
    intro t' same
    have framed := Term.skeletonFramed same.symm
    refine .compound other plain (framed.kind ▸ own) (framed.length ▸ length) fun i tree u here mem => ?_
    obtain ⟨s, there, alike⟩ := framed.child mem
    exact ih i tree s here there alike.symm
  | unknown tagged own length _ ih =>
    intro t' same
    have framed := Term.skeletonFramed same.symm
    refine .unknown tagged (framed.kind ▸ own) (framed.length ▸ length) fun i tree u here mem => ?_
    obtain ⟨s, there, alike⟩ := framed.child mem
    exact ih i tree s here there alike.symm

theorem Scopes.leaf {scope : List (String × Nat)} {tree : Tree} {t : Term}
    (scopes : Scopes scope tree t) (constant : tree.tag = Kind.localConstant.tag) :
    t.kind.isBinder = false ∧ t.children = [] := by
  have tagged {kind : Kind} (same : kind.tag = Kind.localConstant.tag) : kind = .localConstant := by
    have read := congrArg Kind.ofTag? same
    rw [Kind.tagRead, Kind.tagRead] at read
    exact Option.some.inj read
  cases scopes with
  | bound _ kind _ leaf => exact ⟨by rw [kind]; rfl,leaf⟩
  | free _ kind _ leaf => exact ⟨by rw [kind]; rfl,leaf⟩
  | @binder _ kind _ _ _ _ _ _ _ _ _ binds =>
    obtain rfl : kind = .localConstant := tagged constant
    cases binds
  | compound other => exact absurd (tagged constant) other
  | unknown unknown =>
    obtain rfl := constant
    rw [Kind.tagRead] at unknown
    cases unknown

def Unbound (tree : Tree) : Prop :=
  ∀ node ∈ tree.nodes, node.tag ≠ Kind.boundVar.tag

theorem Unbound.own {tag : String} {pairs : List (String × String)} {children : List Tree}
    (unbound : Unbound ⟨tag,pairs,children⟩) : tag ≠ Kind.boundVar.tag :=
  unbound ⟨tag,pairs,children⟩ (by rw [nodesNode]; exact List.mem_cons_self)

theorem Unbound.child {tag : String} {pairs : List (String × String)} {children : List Tree}
    (unbound : Unbound ⟨tag,pairs,children⟩) {tree : Tree} (mem : tree ∈ children) : tree.Unbound := by
  intro node inside
  refine unbound node ?_
  rw [nodesNode]
  exact List.mem_cons_of_mem _ (List.mem_flatMap.mpr ⟨tree,mem,inside⟩)

theorem referenceListed {scope : List (String × Nat)} {info : Info} {n : Nat}
    (found : refersTo? scope info = some n) : n ∈ scope.map Prod.snd := by
  obtain ⟨identifier, _, here⟩ := Option.bind_eq_some_iff.mp found
  obtain ⟨entry, first, rfl⟩ := Option.map_eq_some_iff.mp here
  exact List.mem_map_of_mem (List.mem_of_find?_eq_some first)

theorem Scopes.closed {scope : List (String × Nat)} {tree : Tree} {t : Term}
    (scopes : Scopes scope tree t) : ∀ {above : List Nat}, tree.Unbound →
      (∀ n ∈ scope.map Prod.snd, n ∈ above) → t.Bound above := by
  induction scopes with
  | bound found kind number leaf =>
    intro above _ listed
    exact .node (.inl (by rw [kind]; rfl)) (fun _ => ⟨_,listed _ (referenceListed found),number⟩)
      (by simp [leaf])
  | free outside kind same leaf =>
    intro above _ _
    exact .node (.inl (by rw [kind]; rfl)) (by simp [kind]) (by simp [leaf])
  | @binder scope _ _ _ variableTree _ _ _ _ _ n binds own children isBound number leaf _ _ ihType
      ihBody =>
    intro above unbound listed
    refine .binder (own ▸ binds) children isBound number leaf
      (ihType (unbound.child (by simp)) listed) (ihBody (unbound.child (by simp)) fun m mem => ?_)
    rw [List.map_append, List.mem_append] at mem
    rcases mem with here | around
    · obtain ⟨entry, inside, rfl⟩ := List.mem_map.mp here
      obtain ⟨identifier, _, rfl⟩ := List.mem_map.mp inside
      exact List.mem_cons_self
    · exact List.mem_cons_of_mem _ (listed m around)
  | @compound _ kind _ trees t other plain own length _ ih =>
    intro above unbound listed
    refine .node (by rwa [own, length]) ?_ fun u mem => ?_
    · intro bound
      exact absurd (congrArg Kind.tag (own.symm.trans bound)) unbound.own
    · obtain ⟨i, here⟩ := List.getElem?_of_mem mem
      have inside : i < trees.length := length ▸ (List.getElem?_eq_some_iff.mp here).1
      exact ih i trees[i] u (List.getElem?_eq_getElem inside) here
        (unbound.child (List.getElem_mem inside)) listed
  | @unknown _ tag _ trees t tagged own length _ ih =>
    intro above unbound listed
    refine .node (.inl (by rw [own]; rfl)) (by simp [own]) fun u mem => ?_
    obtain ⟨i, here⟩ := List.getElem?_of_mem mem
    have inside : i < trees.length := length ▸ (List.getElem?_eq_some_iff.mp here).1
    exact ih i trees[i] u (List.getElem?_eq_getElem inside) here
      (unbound.child (List.getElem_mem inside)) listed

end Tree

namespace Decoder

/-! ### Scopes -/

def named (scope : List Variable) : List (String × Nat) :=
  scope.map fun v => (v.identifier,v.number)

theorem namedEnter (own : Info) (n : Nat) (type : Term) (scope : List Variable) :
    named (enter own n type scope) = own.identifier.toList.map (·,n) ++ named scope := by
  rw [enter]
  cases own.identifier <;> rfl

theorem namedFind (scope : List Variable) (identifier : String) :
    (named scope).find? (·.1 == identifier) =
      (scope.find? (·.identifier == identifier)).map fun v => (v.identifier,v.number) := by
  rw [named, List.find?_map]
  rfl

theorem knownVariable {scope : List Variable} {info : Info} {n : Nat}
    (found : Tree.refersTo? (named scope) info = some n) (d : Decoder) :
    ∃ type, d.known? scope info = some (.boundVar (info.name.getD "") n type) := by
  obtain ⟨identifier, own, here⟩ := Option.bind_eq_some_iff.mp found
  rw [namedFind] at here
  cases first : scope.find? (·.identifier == identifier) with
  | none => simp [first] at here
  | some v =>
    obtain rfl : v.number = n := by simpa [first] using here
    exact ⟨v.type,by rw [known?, own, Option.bind_some, first]⟩

theorem knownElse {scope : List Variable} {info : Info}
    (outside : Tree.refersTo? (named scope) info = none) (d : Decoder) :
    d.known? scope info = info.identifier.bind d.interned? := by
  rw [known?]
  refine Option.bind_congr fun identifier own => ?_
  rw [Tree.refersTo?, own, Option.bind_some, namedFind] at outside
  cases first : scope.find? (·.identifier == identifier) with
  | none => rfl
  | some v => simp [first] at outside

theorem internedConstant {d : Decoder} (interns : d.Interns) {info : Info} {t : Term}
    (met : info.identifier.bind d.interned? = some t) :
    t.kind = .localConstant ∧ t.identifier? = info.identifier ∧ t.children = [] := by
  obtain ⟨identifier, own, found⟩ := Option.bind_eq_some_iff.mp met
  obtain ⟨entry, here, rfl⟩ := Option.map_eq_some_iff.mp found
  have key : entry.1 = identifier := eq_of_beq (by simpa using List.find?_some here)
  obtain ⟨kind, identified, childless⟩ := interns entry (List.mem_of_find?_eq_some here)
  exact ⟨kind,by rw [identified, own, key],childless⟩

theorem constantScopes (pairs : List (String × String)) (children : List Tree) (scope : List Variable)
    {d : Decoder} (interns : d.Interns) :
    Tree.Scopes (named scope) ⟨Kind.localConstant.tag,pairs,children⟩
      (build scope ⟨Kind.localConstant.tag,pairs,children⟩ d).1 := by
  rw [buildConstant]
  cases found : Tree.refersTo? (named scope) (Info.ofPairs pairs) with
  | some n =>
    obtain ⟨type, known⟩ := knownVariable found d
    rw [known]
    exact .bound found rfl rfl rfl
  | none =>
    rw [knownElse found]
    cases met : (Info.ofPairs pairs).identifier.bind d.interned? with
    | some t =>
      obtain ⟨kind, same, leaf⟩ := internedConstant interns met
      exact .free found kind same leaf
    | none =>
      cases children with
      | nil => exact .free found rfl rfl rfl
      | cons typeTree others => exact .free found rfl rfl rfl

theorem buildAllScopes {trees : List Tree} {scope : List Variable}
    (each : ∀ tree ∈ trees, ∀ d : Decoder, d.Interns →
      Tree.Scopes (named scope) tree (build scope tree d).1) {d : Decoder} (interns : d.Interns) :
    List.Forall₂ (Tree.Scopes (named scope)) trees (buildAll scope trees d).1 := by
  induction trees generalizing d with
  | nil =>
    rw [buildAll]
    exact .nil
  | cons tree trees ih =>
    obtain ⟨first, others⟩ := List.forall_mem_cons.mp each
    rw [buildAll]
    exact .cons (first d interns) (ih others ((buildFollows tree scope d).interns interns))

theorem siblingsSkeleton (ts : List Term) :
    (typeSiblings ts).map Term.skeleton = ts.map Term.skeleton := by
  have bare (us : List Term) : (us.map Term.bare).map Term.skeleton = us.map Term.skeleton := by
    rw [List.map_map]
    exact List.map_congr_left fun u _ => Term.skeletonBare u
  rw [← bare, bareSiblings, bare]

theorem compoundScopes {scope : List (String × Nat)} {kind : Kind} (other : kind ≠ .localConstant)
    {pairs : List (String × String)} {trees : List Tree}
    (plain : kind.isBinder = false ∨ trees.length ≠ 3) {ts : List Term}
    (each : List.Forall₂ (Tree.Scopes scope) trees ts) :
    Tree.Scopes scope ⟨kind.tag,pairs,trees⟩ (compound kind (Info.ofPairs pairs) ts) := by
  have length : (typeSiblings ts).length = ts.length := by
    simpa using congrArg List.length (siblingsSkeleton ts)
  refine .compound other plain rfl (length.trans each.length_eq.symm) fun i tree u here there => ?_
  obtain ⟨t, own, scopes⟩ := Term.partnerAt each here
  have same := congrArg (·[i]?) (siblingsSkeleton ts)
  have found : (typeSiblings ts)[i]? = some u := there
  simp only [List.getElem?_map, found, own, Option.map_some] at same
  exact scopes.retain (Option.some.inj same)

theorem buildScopes (tree : Tree) : ∀ (scope : List Variable) (d : Decoder), d.Interns →
    Tree.Scopes (named scope) tree (build scope tree d).1 := by
  induction tree using Tree.kindInduction with
  | unknown tag pairs children tagged ih =>
    intro scope d interns
    rw [buildUnknown tagged]
    have each := buildAllScopes (fun tree mem d => ih tree mem scope d)
      ((warnFollows d (rfl : (Warning.unknownTag tag).skips = false)).interns interns)
    refine .unknown tagged rfl each.length_eq.symm fun i tree u here there => ?_
    obtain ⟨t, own, scopes⟩ := Term.partnerAt each here
    cases own.symm.trans there
    exact scopes
  | constant pairs children _ =>
    intro scope d interns
    exact constantScopes pairs children scope interns
  | binder kind pairs typeTree variableTree bodyTree binds ihType ihBody =>
    intro scope d interns
    have counted := (checkCountFollows d kind.tag kind 3).interns interns
    have typed := (buildFollows typeTree scope (d.checkCount kind.tag kind 3)).interns counted
    rw [buildBinder binds rfl rfl]
    refine .binder binds rfl rfl rfl rfl rfl (ihType scope _ counted) ?_
    rw [← namedEnter]
    exact ihBody _ _ typed
  | compound kind pairs children other plain ih =>
    intro scope d interns
    have counted := (checkCountFollows d kind.tag kind children.length).interns interns
    rw [buildCompound other plain rfl]
    exact compoundScopes other plain (buildAllScopes (fun tree mem d => ih tree mem scope d) counted)

/-! ### Numbers -/

structure GivenOut (first last : Nat) (numbers : List Nat) : Prop where
  once : numbers.Nodup
  within : ∀ n ∈ numbers, first ≤ n ∧ n < last

theorem givenNone (first last : Nat) : GivenOut first last [] := ⟨List.nodup_nil,by simp⟩

theorem GivenOut.widen {first last first' last' : Nat} {numbers : List Nat}
    (given : GivenOut first last numbers) (before : first' ≤ first) (after : last ≤ last') :
    GivenOut first' last' numbers where
  once := given.once
  within n mem :=
    ⟨Nat.le_trans before (given.within n mem).1,Nat.lt_of_lt_of_le (given.within n mem).2 after⟩

theorem GivenOut.append {first middle last : Nat} {earlier later : List Nat}
    (one : GivenOut first middle earlier) (two : GivenOut middle last later)
    (before : first ≤ middle) (after : middle ≤ last) : GivenOut first last (earlier ++ later) where
  once := by
    refine List.nodup_append.mpr ⟨one.once,two.once,fun m mem n mem' => ?_⟩
    have low := (one.within m mem).2
    have high := (two.within n mem').1
    omega
  within n mem := by
    rcases List.mem_append.mp mem with left | right
    · exact (one.widen (Nat.le_refl _) after).within n left
    · exact (two.widen before (Nat.le_refl _)).within n right

theorem GivenOut.perm {first last : Nat} {numbers numbers' : List Nat} (given : GivenOut first last numbers)
    (perm : numbers.Perm numbers') : GivenOut first last numbers' where
  once := perm.nodup_iff.mp given.once
  within n mem := given.within n (perm.mem_iff.mpr mem)

theorem GivenOut.cons {first last : Nat} {numbers : List Nat} (before : first < last)
    (given : GivenOut (first + 1) last numbers) : GivenOut first last (first :: numbers) where
  once := List.nodup_cons.mpr ⟨fun mem => by have := (given.within first mem).1; omega,given.once⟩
  within := List.forall_mem_cons.mpr
    ⟨⟨Nat.le_refl _,before⟩,(given.widen (Nat.le_succ _) (Nat.le_refl _)).within⟩

theorem constantNumbers (pairs : List (String × String)) (children : List Tree) (scope : List Variable)
    {d : Decoder} (interns : d.Interns) :
    (build scope ⟨Kind.localConstant.tag,pairs,children⟩ d).1.binderNumbers = [] := by
  obtain ⟨plain, leaf⟩ := (constantScopes pairs children scope interns).leaf rfl
  rw [Term.binderNumbersPlain (.inl plain), leaf]
  rfl

theorem compoundNumbers {kind : Kind} {ts : List Term} (plain : kind.isBinder = false ∨ ts.length ≠ 3)
    (info : Info) : (compound kind info ts).binderNumbers = ts.flatMap Term.binderNumbers := by
  have length : (typeSiblings ts).length = ts.length := by
    simpa using congrArg List.length (siblingsSkeleton ts)
  have numbers (us : List Term) : us.flatMap Term.binderNumbers =
      (us.map Term.skeleton).flatMap Term.binderNumbers := by
    rw [List.flatMap_map]
    exact List.flatMap_congr fun u _ => (Term.binderNumbersSkeleton u).symm
  rw [compound, Term.binderNumbersPlain (length.symm ▸ plain), numbers, numbers ts]
  exact congrArg _ (siblingsSkeleton ts)

theorem buildAllNumbers {trees : List Tree} {scope : List Variable}
    (each : ∀ tree ∈ trees, ∀ d : Decoder, d.Interns → GivenOut d.nextNumber
      (build scope tree d).2.nextNumber (build scope tree d).1.binderNumbers)
    {d : Decoder} (interns : d.Interns) : GivenOut d.nextNumber (buildAll scope trees d).2.nextNumber
      ((buildAll scope trees d).1.flatMap Term.binderNumbers) := by
  induction trees generalizing d with
  | nil => exact givenNone _ _
  | cons tree trees ih =>
    obtain ⟨first, others⟩ := List.forall_mem_cons.mp each
    have built := buildFollows tree scope d
    have rest := @buildAllFollows trees (fun t _ => buildFollows t) scope (build scope tree d).2
    rw [buildAll]
    exact (first d interns).append (ih others (built.interns interns)) built.next rest.next

theorem buildNumbers (tree : Tree) : ∀ (scope : List Variable) (d : Decoder), d.Interns →
    GivenOut d.nextNumber (build scope tree d).2.nextNumber (build scope tree d).1.binderNumbers := by
  induction tree using Tree.kindInduction with
  | unknown tag pairs children tagged ih =>
    intro scope d interns
    have warned := warnFollows d (rfl : (Warning.unknownTag tag).skips = false)
    rw [buildUnknown tagged, Term.binderNumbersPlain (.inl rfl)]
    exact (buildAllNumbers (fun tree mem d => ih tree mem scope d) (warned.interns interns)).widen
      warned.next (Nat.le_refl _)
  | constant pairs children _ =>
    intro scope d interns
    rw [constantNumbers pairs children scope interns]
    exact givenNone _ _
  | binder kind pairs typeTree variableTree bodyTree binds ihType ihBody =>
    intro scope d interns
    have counted := checkCountFollows d kind.tag kind 3
    generalize first : build scope typeTree (d.checkCount kind.tag kind 3) = built
    obtain ⟨type, typed⟩ := built
    have typing := buildFollows typeTree scope (d.checkCount kind.tag kind 3)
    have one := ihType scope _ (counted.interns interns)
    rw [first] at typing one
    generalize second : build (enter (Info.ofPairs variableTree.info) typed.nextNumber type scope)
      bodyTree { typed with nextNumber := typed.nextNumber + 1 } = built
    obtain ⟨body, after⟩ := built
    have inside := buildFollows bodyTree
      (enter (Info.ofPairs variableTree.info) typed.nextNumber type scope)
      { typed with nextNumber := typed.nextNumber + 1 }
    have two := ihBody (enter (Info.ofPairs variableTree.info) typed.nextNumber type scope)
      { typed with nextNumber := typed.nextNumber + 1 } (typing.interns (counted.interns interns))
    rw [second] at inside two
    have taken : typed.nextNumber < after.nextNumber := inside.next
    rw [buildBinder binds first second, Term.binderNumbersBinder binds rfl rfl rfl]
    exact ((one.widen counted.next (Nat.le_refl _)).append (two.cons taken)
      (Nat.le_trans counted.next typing.next) (Nat.le_of_lt taken)).perm List.perm_middle
  | compound kind pairs children other plain ih =>
    intro scope d interns
    have counted := checkCountFollows d kind.tag kind children.length
    have each := buildAllNumbers (fun tree mem d => ih tree mem scope d) (counted.interns interns)
    have scopes : List.Forall₂ (Tree.Scopes (named scope)) children _ :=
      buildAllScopes (fun tree _ d => buildScopes tree scope d) (counted.interns interns)
    rw [buildCompound other plain rfl, compoundNumbers (scopes.length_eq ▸ plain)]
    exact each.widen counted.next (Nat.le_refl _)

end Decoder

end ProofTutor
