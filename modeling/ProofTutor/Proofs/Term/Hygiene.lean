import ProofTutor.Proofs.Term.Alpha
import ProofTutor.Proofs.Term.FreshName

/-!
Hygiene of displayed terms. A binder with three children shows a name that no name around it, no
enclosing variable and no local constant of its body has, and the occurrences of its variable show the
name of the variable. Naming brings every term to this form whose binders have numbered variables with
numbers of their own.
-/
namespace ProofTutor

namespace Term

inductive Formed (stray : Prop) (constant : Info → Prop) : List Nat → Term → Prop where
  | binder {above : List Nat} {kind : Kind} {info own : Info} {type body : Term}
      {ownType? type? : Option Term} {n : Nat} (binds : kind.isBinder = true)
      (number : own.number = some n) (fresh : n ∉ above)
      (typed : Formed stray constant (n :: above) type)
      (inside : Formed stray constant (n :: above) body) :
      Formed stray constant above ⟨kind,info,[type,⟨.boundVar,own,[],ownType?⟩,body],type?⟩
  | node {above : List Nat} {kind : Kind} {info : Info} {children : List Term} {type? : Option Term}
      (free : kind.isBinder = false ∨ children.length ≠ 3) (own : kind = .localConstant → constant info)
      (bound : kind = .boundVar → stray ∨ ∃ n ∈ above, info.number = some n)
      (below : ∀ t ∈ children, Formed stray constant above t) :
      Formed stray constant above ⟨kind,info,children,type?⟩

inductive Declared (mixed : Prop) : List Nat → Term → Prop where
  | binder {above : List Nat} {kind : Kind} {info : Info} {type v body : Term} {type? : Option Term}
      {n : Nat} (binds : kind.isBinder = true) (own : v.kind = .boundVar) (number : v.number? = some n)
      (fresh : n ∉ above) (typed : mixed ∨ type.Numbered)
      (below : ∀ t ∈ [type,v,body], Declared mixed (n :: above) t) :
      Declared mixed above ⟨kind,info,[type,v,body],type?⟩
  | node {above : List Nat} {kind : Kind} {info : Info} {children : List Term} {type? : Option Term}
      (plain : kind.isBinder = false ∨ children.length ≠ 3)
      (below : ∀ t ∈ children, Declared mixed above t) : Declared mixed above ⟨kind,info,children,type?⟩

inductive Displayed (outer : List String) (stray : Prop) (constant : Info → Prop) :
    List (Nat × String) → Term → Prop where
  | binder {above : List (Nat × String)} {kind : Kind} {info own : Info} {type body : Term}
      {ownType? type? : Option Term} {n : Nat} {name : String} (binds : kind.isBinder = true)
      (number : own.number = some n) (fresh : n ∉ above.map Prod.fst) (named : own.name = some name)
      (clear : name ∉ outer) (apart : name ∉ above.map Prod.snd) (locals : name ∉ body.localNames)
      (typed : Displayed outer stray constant ((n,name) :: above) type)
      (inside : Displayed outer stray constant ((n,name) :: above) body) :
      Displayed outer stray constant above ⟨kind,info,[type,⟨.boundVar,own,[],ownType?⟩,body],type?⟩
  | node {above : List (Nat × String)} {kind : Kind} {info : Info} {children : List Term}
      {type? : Option Term} (free : kind.isBinder = false ∨ children.length ≠ 3)
      (own : kind = .localConstant → constant info)
      (bound : kind = .boundVar → stray ∨
        ∃ n name, (n,name) ∈ above ∧ info.number = some n ∧ info.name = some name)
      (below : ∀ t ∈ children, Displayed outer stray constant above t) :
      Displayed outer stray constant above ⟨kind,info,children,type?⟩

/-! ### Names of local constants -/

theorem nodesOfFlat (ts : List Term) : nodesOf ts = ts.flatMap nodes := by
  induction ts with
  | nil => rfl
  | cons t ts ih => rw [nodesOf, ih, List.flatMap_cons]

theorem localNamesNode (kind : Kind) (info : Info) (children : List Term) (type? : Option Term) :
    localNames ⟨kind,info,children,type?⟩ =
      (if kind = .localConstant then info.name.toList else []) ++ children.flatMap localNames := by
  have below : ((children.flatMap nodes).filter (·.kind == .localConstant)).filterMap name? =
      children.flatMap localNames := by
    rw [List.filter_flatMap, List.filterMap_flatMap]
    rfl
  rw [localNames, namesOf, nodes, nodesOfFlat, ← below]
  by_cases constant : kind = .localConstant
  · cases name : info.name <;> simp [constant, name?, name]
  · simp [constant]

theorem localNamesMap {f : Term → Term} {kind : Kind} {info info' : Info} {children : List Term}
    {type? type?' : Option Term} (own : kind = .localConstant → info' = info)
    (below : ∀ t ∈ children, (f t).localNames = t.localNames) :
    localNames ⟨kind,info',children.map f,type?'⟩ = localNames ⟨kind,info,children,type?⟩ := by
  have same : (children.map f).flatMap localNames = children.flatMap localNames := by
    rw [List.flatMap_map]
    exact List.flatMap_congr below
  rw [localNamesNode, localNamesNode, same]
  by_cases constant : kind = .localConstant
  · rw [own constant]
  · simp [constant]

end Term

namespace Naming

theorem renameBoundInMap (number : Nat) (name : String) (ts : List Term) :
    Term.renameBoundIn number name ts = ts.map (Term.renameBound number name) := by
  induction ts with
  | nil => rfl
  | cons t ts ih => rw [Term.renameBoundIn, ih, List.map_cons]

theorem renamedNode (renames : List (Nat × String)) (kind : Kind) (info : Info)
    (children : List Term) (type? : Option Term) : renamed renames ⟨kind,info,children,type?⟩ =
      ⟨kind,(renamed renames ⟨kind,info,children,type?⟩).info,children.map (renamed renames),
        type?⟩ := by
  induction renames generalizing info children with
  | nil =>
    have same : children.map (renamed []) = children := List.map_id children
    rw [same]
    rfl
  | cons rename renames ih =>
    have step (t : Term) : renamed (rename :: renames) t =
        renamed renames (t.renameBound rename.1 rename.2) := rfl
    have below : children.map (renamed (rename :: renames)) =
        (children.map (Term.renameBound rename.1 rename.2)).map (renamed renames) := by
      rw [List.map_map]
      rfl
    rw [step, below, Term.renameBound, renameBoundInMap]
    exact ih _ _

theorem renamedLocalNames (renames : List (Nat × String)) (t : Term) :
    (renamed renames t).localNames = t.localNames := by
  induction t using Term.nodeInduction with
  | node kind info children type? ih =>
    rw [renamedNode]
    refine Term.localNamesMap (fun constant => ?_) ih
    exact (renamedInfo renames ⟨kind,info,children,type?⟩).others (by simp [constant])

theorem nameInLocalNames (naming : Naming) (outer : List String) (t : Term) :
    ∀ (scope : List Scoped) (renames : List (Nat × String)),
      (nameIn naming outer scope renames t).localNames = t.localNames := by
  induction t using Term.nodeInduction with
  | node kind info children type? ih =>
    intro scope renames
    obtain ⟨own, inner, renames', same⟩ :=
      nameInNode naming outer scope renames kind info children type?
    rw [same]
    refine Term.localNamesMap (fun constant => ?_) fun t mem => ih t mem inner renames'
    exact (renamedInfo own ⟨kind,info,children,type?⟩).others (by simp [constant])

/-! ### Names of bound variables -/

theorem renameBoundOther {m n : Nat} (other : n ≠ m) (name : String) {t : Term}
    (number : t.info.number = some n) : (t.renameBound m name).info = t.info := by
  obtain ⟨kind, info, children, type?⟩ := t
  rw [Term.renameBound]
  dsimp only at number ⊢
  rw [if_neg]
  simp [number, other]

theorem renamedOther {renames : List (Nat × String)} {n : Nat} (other : n ∉ renames.map Prod.fst)
    {t : Term} (number : t.info.number = some n) : (renamed renames t).info = t.info := by
  induction renames generalizing t with
  | nil => rfl
  | cons rename renames ih =>
    rw [List.map_cons, List.mem_cons, not_or] at other
    have kept := renameBoundOther other.1 rename.2 number
    have step : renamed (rename :: renames) t =
        renamed renames (t.renameBound rename.1 rename.2) := rfl
    rw [step, ih other.2 (kept ▸ number), kept]

theorem renamedName {renames : List (Nat × String)} (distinct : (renames.map Prod.fst).Nodup)
    {n : Nat} {name : String} (mem : (n,name) ∈ renames) {t : Term} (bound : t.kind = .boundVar)
    (number : t.info.number = some n) : (renamed renames t).info.name = some name := by
  induction renames generalizing t with
  | nil => cases mem
  | cons rename renames ih =>
    obtain ⟨only, rest⟩ := List.nodup_cons.mp distinct
    have step : renamed (rename :: renames) t =
        renamed renames (t.renameBound rename.1 rename.2) := rfl
    rw [step]
    rcases List.mem_cons.mp mem with rfl | later
    · obtain ⟨kind, info, children, type?⟩ := t
      dsimp only at bound number
      have own : (Term.renameBound n name ⟨kind,info,children,type?⟩).info =
          { info with name := some name } := by
        rw [Term.renameBound, if_pos (by simp [bound, number])]
      rw [renamedOther only (own ▸ number), own]
    · have other : n ≠ rename.1 := by
        rintro rfl
        exact only (List.mem_map.mpr ⟨_,later,rfl⟩)
      have kept := renameBoundOther other rename.2 number
      exact ih rest later ((renameBoundInfo rename.1 rename.2 t).1.trans bound) (kept ▸ number)

/-! ### Naming -/

section Naming
variable (naming : Naming) (outer : List String) (scope : List Scoped) {renames : List (Nat × String)}
  {kind : Kind} {info : Info} {children : List Term} {type? : Option Term}

theorem nameInUnnamed (unbound : boundHere? (renamed renames ⟨kind,info,children,type?⟩) = none) :
    nameIn naming outer scope renames ⟨kind,info,children,type?⟩ =
      ⟨kind,(renamed renames ⟨kind,info,children,type?⟩).info,
        children.map (nameIn naming outer scope renames),type?⟩ := by
  rw [nameIn]
  dsimp only
  rw [unbound, nameAllMap]

theorem nameInNamed {n : Nat} {name : String}
    (bound : boundHere? (renamed renames ⟨kind,info,children,type?⟩) = some n)
    (chosen : nameOf naming outer scope (renamed renames ⟨kind,info,children,type?⟩) = name) :
    let type := (renamed renames ⟨kind,info,children,type?⟩).children[0]?.getD Term.untyped
    nameIn naming outer scope renames ⟨kind,info,children,type?⟩ =
      ⟨kind,(renamed (renames ++ [(n,name)]) ⟨kind,info,children,type?⟩).info,
        children.map (nameIn naming outer (scope ++ [⟨type,name⟩]) (renames ++ [(n,name)])),type?⟩ := by
  rw [nameIn]
  dsimp only
  rw [bound]
  dsimp only
  rw [nameAllMap, chosen]

end Naming

theorem nameInPlain (naming : Naming) (outer : List String) (scope : List Scoped)
    (renames : List (Nat × String)) {kind : Kind} {info : Info} {children : List Term}
    {type? : Option Term} (free : kind.isBinder = false ∨ children.length ≠ 3) :
    nameIn naming outer scope renames ⟨kind,info,children,type?⟩ =
      ⟨kind,(renamed renames ⟨kind,info,children,type?⟩).info,
        children.map (nameIn naming outer scope renames),type?⟩ := by
  apply nameInUnnamed
  rw [renamedNode, boundHere?, Term.boundNumber?, Term.boundVar?]
  rcases free with binds | length
  · simp [binds]
  · simp [length]

theorem nameInDeclared (naming : Naming) (outer : List String) (scope : List Scoped)
    (renames : List (Nat × String)) {kind : Kind} (binds : kind.isBinder = true) {info : Info}
    {type v body : Term} {n : Nat} (number : v.number? = some n) {type? : Option Term}
    {name : String} (chosen : nameOf naming outer scope
      (renamed renames ⟨kind,info,[type,v,body],type?⟩) = name) :
    nameIn naming outer scope renames ⟨kind,info,[type,v,body],type?⟩ =
      ⟨kind,info,[type,v,body].map
        (nameIn naming outer (scope ++ [⟨renamed renames type,name⟩]) (renames ++ [(n,name)])),type?⟩ := by
  have notVariable : kind ≠ .boundVar := by rintro rfl; cases binds
  have numbered : (renamed renames v).number? = some n := by
    obtain ⟨name, same⟩ := (renamedInfo renames v).name
    rw [Term.number?, same]
    exact number
  have here : boundHere? (renamed renames ⟨kind,info,[type,v,body],type?⟩) = some n := by
    rw [renamedNode, boundHere?, Term.boundNumber?, Term.boundVar?]
    simp [binds, numbered]
  have first : (renamed renames ⟨kind,info,[type,v,body],type?⟩).children[0]?.getD Term.untyped =
      renamed renames type := by
    rw [renamedNode]
    rfl
  rw [nameInNamed naming outer scope here chosen, first,
    (renamedInfo _ ⟨kind,info,_,type?⟩).others fun same => absurd same notVariable]

theorem nameInBinder (naming : Naming) (outer : List String) (scope : List Scoped)
    (renames : List (Nat × String)) {kind : Kind} (binds : kind.isBinder = true) {v : Term} {n : Nat}
    (number : v.number? = some n) (info : Info) (type body : Term) (type? : Option Term) :
    ∃ (info' : Info) (entry : Scoped), entry.name ∉ outer ∧ entry.name ∉ scope.map (·.name) ∧
      entry.name ∉ body.localNames ∧
      nameIn naming outer scope renames ⟨kind,info,[type,v,body],type?⟩ =
        ⟨kind,info',[type,v,body].map
          (nameIn naming outer (scope ++ [entry]) (renames ++ [(n,entry.name)])),type?⟩ := by
  obtain ⟨clear, apart, locals⟩ := nameOfNew naming outer scope
    (renamed renames ⟨kind,info,[type,v,body],type?⟩)
  have bodyNames : ((renamed renames ⟨kind,info,[type,v,body],type?⟩).children[2]?.getD
      Term.untyped).localNames = body.localNames := by
    rw [renamedNode]
    exact renamedLocalNames renames body
  rw [bodyNames] at locals
  exact ⟨info,_,clear,apart,locals,
    nameInDeclared naming outer scope renames binds number rfl⟩

theorem nameInDisplayed {stray : Prop} {constant : Info → Prop} (naming : Naming)
    {outer known : List String} (inside : known ⊆ outer) {above : List Nat} {t : Term}
    (formed : Term.Formed stray constant above t) :
    ∀ (scope : List Scoped) (named : List (Nat × String)), named.map Prod.fst = above →
      scope.map (·.name) = (named.map Prod.snd).reverse → above.Nodup →
      Term.Displayed known stray constant named (nameIn naming outer scope named.reverse t) := by
  induction formed with
  | @binder above kind info own type body ownType? type? n binds number fresh typed inner ihType
      ihBody =>
    intro scope named numbers names distinct
    obtain ⟨info', entry, clear, apart, locals, same⟩ :=
      nameInBinder naming outer scope named.reverse binds (v := ⟨.boundVar,own,[],ownType?⟩) number info
        type body type?
    -- the new pair comes last among the renames, and no other pair has its number
    rw [← List.reverse_cons] at same
    have distinct' : (((n,entry.name) :: named).reverse.map Prod.fst).Nodup := by
      rw [List.map_reverse, List.nodup_reverse, List.map_cons, numbers]
      exact List.nodup_cons.mpr ⟨fresh,distinct⟩
    have names' : (scope ++ [entry]).map (·.name) =
        (((n,entry.name) :: named).map Prod.snd).reverse := by
      simp [names]
    have numbers' : ((n,entry.name) :: named).map Prod.fst = n :: above := by
      rw [List.map_cons, numbers]
    have own' := renamedInfo ((n,entry.name) :: named).reverse ⟨.boundVar,own,[],ownType?⟩
    have ownVariable := @nameInPlain naming outer (scope ++ [entry]) ((n,entry.name) :: named).reverse
      .boundVar own [] ownType? (.inl rfl)
    obtain ⟨name, changed⟩ := own'.name
    rw [same, List.map_cons, List.map_cons, List.map_cons, ownVariable]
    refine .binder binds ?_ (numbers ▸ fresh) ?_ (fun mem => clear (inside mem)) ?_ ?_ ?_ ?_
    · rw [changed]
      exact number
    · exact renamedName distinct' (by simp) rfl number
    · rw [names, List.mem_reverse] at apart
      exact apart
    · rw [nameInLocalNames]
      exact locals
    · exact ihType _ _ numbers' names' (List.nodup_cons.mpr ⟨fresh,distinct⟩)
    · exact ihBody _ _ numbers' names' (List.nodup_cons.mpr ⟨fresh,distinct⟩)
  | @node above kind info children type? free own bound below ih =>
    intro scope named numbers names distinct
    have changed := renamedInfo named.reverse ⟨kind,info,children,type?⟩
    rw [nameInPlain naming outer scope named.reverse free]
    refine .node (by simpa using free) ?_ ?_ ?_
    · intro isLocal
      rw [changed.others (by simp [isLocal])]
      exact own isLocal
    · intro isBound
      rcases bound isBound with any | ⟨n, mem, number⟩
      · exact .inl any
      · obtain ⟨⟨m, name⟩, here, rfl⟩ := List.mem_map.mp (numbers ▸ mem)
        have distinct' : (named.reverse.map Prod.fst).Nodup := by
          rwa [List.map_reverse, List.nodup_reverse, numbers]
        obtain ⟨other, same⟩ := changed.name
        refine .inr ⟨m,name,here,?_,?_⟩
        · rw [same]
          exact number
        · exact renamedName distinct' (List.mem_reverse.mpr here) isBound number
    · intro t mem
      obtain ⟨child, among, rfl⟩ := List.mem_map.mp mem
      exact ih child among scope named numbers names distinct

theorem nameBoundDisplayed {stray : Prop} {constant : Info → Prop} (naming : Naming)
    {outer known : List String} (inside : known ⊆ outer) {t : Term}
    (formed : Term.Formed stray constant [] t) :
    Term.Displayed known stray constant [] (naming.nameBound outer t) :=
  nameInDisplayed naming inside formed [] [] rfl rfl List.nodup_nil

end Naming

end ProofTutor
