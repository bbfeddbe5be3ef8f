import ProofTutor.Proofs.Dump.Interning
import ProofTutor.Proofs.Term.Alpha
import ProofTutor.Proofs.Term.FreshName
import ProofTutor.Proofs.Term.Written

/-!
Decoding the tree of a well-scoped term. Bound variables come back bound by the same binders under
other numbers, local constants come back under their identifiers, so the decoded term equals the
written one up to bound variables.
-/
namespace ProofTutor

namespace Term

def boundStart : String := "_bound."

/-- Well-scoped terms, where `bound` are the numbers of the binders whose bodies the term stands in:
every bound variable has the number of one of them, a binder takes none of their numbers, and no
local constant has an identifier that a bound variable could be written with. -/
inductive ScopedIn : List Nat → Term → Prop where
  | occurrence {bound : List Nat} {info : Info} {type? : Option Term} {n : Nat}
      (number : info.number = some n) (unnamed : info.identifier = none) (inside : n ∈ bound) :
      ScopedIn bound ⟨.boundVar,info,[],type?⟩
  | constant {bound : List Nat} {info : Info} {type? : Option Term}
      (free : ∀ identifier, info.identifier = some identifier →
        ¬ boundStart.toList <+: identifier.toList) :
      ScopedIn bound ⟨.localConstant,info,[],type?⟩
  | binder {bound : List Nat} {kind : Kind} {info own : Info} {type body : Term}
      {ownType? type? : Option Term} {n : Nat} (binds : kind.isBinder = true)
      (number : own.number = some n) (unnamed : own.identifier = none) (fresh : n ∉ bound)
      (typed : ScopedIn bound type) (inside : ScopedIn (n :: bound) body) :
      ScopedIn bound ⟨kind,info,[type,⟨.boundVar,own,[],ownType?⟩,body],type?⟩
  | compound {bound : List Nat} {kind : Kind} {info : Info} {children : List Term}
      {type? : Option Term} (notVariable : kind ≠ .boundVar) (notConstant : kind ≠ .localConstant)
      (notBinder : kind.isBinder = false) (below : ∀ t ∈ children, ScopedIn bound t) :
      ScopedIn bound ⟨kind,info,children,type?⟩

theorem ScopedIn.numbered {bound : List Nat} {t : Term} (closed : ScopedIn bound t) :
    t.Numbered := by
  induction closed with
  | occurrence number unnamed inside => exact .node (fun _ => ⟨_,number⟩) (by simp)
  | constant free => exact .node (by simp) (by simp)
  | binder binds number unnamed fresh typed inside ihType ihBody =>
    refine .node (by rintro rfl; cases binds) ?_
    simp only [List.forall_mem_cons]
    exact ⟨ihType,.node (fun _ => ⟨_,number⟩) (by simp),ihBody,by simp⟩
  | compound notVariable notConstant notBinder below ih =>
    exact .node (fun same => absurd same notVariable) ih

def writtenVariable (info : Info) (n : Nat) : Info :=
  { name := info.name, identifier := some (boundStart ++ toString n), binder := info.binder }

theorem variableTree {info : Info} {n : Nat} (number : info.number = some n)
    (unnamed : info.identifier = none) (type? : Option Term) (declared : Bool) :
    (⟨.boundVar,info,[],type?⟩ : Term).tree declared =
      ⟨Kind.localConstant.tag,(writtenVariable info n).pairs,[]⟩ := by
  rw [treeNode]
  simp [writtenHead, writtenIdentifier, writtenVariable, number, unnamed, boundStart, trees]

theorem compoundTree {kind : Kind} (notVariable : kind ≠ .boundVar) (notConstant : kind ≠ .localConstant)
    (code : kind ≠ .rawCode) (info : Info) (children : List Term) (type? : Option Term) :
    (⟨kind,info,children,type?⟩ : Term).tree false =
      ⟨kind.tag,info.pairs,trees kind.isBinder 0 children⟩ := by
  have head : writtenHead kind info = (kind.tag,info) := by
    unfold writtenHead
    split
    · exact absurd rfl notVariable
    · exact absurd rfl code
    · rfl
  rw [treeNode, head, beq_eq_false_iff_ne.mpr notConstant]
  rfl

theorem binderTree {kind : Kind} (binds : kind.isBinder = true) {own : Info} {n : Nat}
    (number : own.number = some n) (unnamed : own.identifier = none) (info : Info) (type body : Term)
    (ownType? type? : Option Term) :
    (⟨kind,info,[type,⟨.boundVar,own,[],ownType?⟩,body],type?⟩ : Term).tree false =
      ⟨kind.tag,info.pairs,[type.tree false,
        ⟨Kind.localConstant.tag,(writtenVariable own n).pairs,[]⟩,body.tree false]⟩ := by
  have notVariable : kind ≠ .boundVar := by rintro rfl; cases binds
  have notConstant : kind ≠ .localConstant := by rintro rfl; cases binds
  have code : kind ≠ .rawCode := by rintro rfl; cases binds
  rw [compoundTree notVariable notConstant code, binds]
  simp only [trees, Bool.true_and, variableTree number unnamed]
  rfl

end Term

namespace Decoder

/-! ### Scopes -/

def variableOf? (scope : List Variable) (n : Nat) : Option Variable :=
  scope.find? (·.identifier == Term.boundStart ++ toString n)

structure Covers (scope : List Variable) (bound : List Nat) (next : Nat) : Prop where
  reserved : ∀ v ∈ scope, Term.boundStart.toList <+: v.identifier.toList
  found : ∀ n ∈ bound, ∃ v, variableOf? scope n = some v ∧ v.number < next

def Paired (scope : List Variable) (bound : List Nat) (pairs : List (Nat × Nat)) : Prop :=
  ∀ n ∈ bound, ∀ v, variableOf? scope n = some v → Term.sameBound pairs v.number n = true

theorem noneCovered (next : Nat) : Covers [] [] next where
  reserved := by simp
  found := by simp

theorem Covers.later {scope : List Variable} {bound : List Nat} {next later : Nat}
    (covers : Covers scope bound next) (le : next ≤ later) : Covers scope bound later where
  reserved := covers.reserved
  found := by
    intro n mem
    obtain ⟨v, found, below⟩ := covers.found n mem
    exact ⟨v,found,Nat.lt_of_lt_of_le below le⟩

theorem sameBoundCons {pairs : List (Nat × Nat)} {l r m n : Nat} (left : l ≠ m) (right : r ≠ n) :
    Term.sameBound ((m,n) :: pairs) l r = Term.sameBound pairs l r := by
  have skip : (m == l || n == r) = false := by
    simp [Ne.symm left, Ne.symm right]
  rw [Term.sameBound, List.find?_cons, skip, Term.sameBound]

theorem Covers.paired {scope : List Variable} {bound : List Nat} {next m n : Nat}
    {pairs : List (Nat × Nat)} (covers : Covers scope bound next) (paired : Paired scope bound pairs)
    (above : next ≤ m) (fresh : n ∉ bound) : Paired scope bound ((m,n) :: pairs) := by
  intro k mem v found
  obtain ⟨other, same, below⟩ := covers.found k mem
  cases found.symm.trans same
  rw [sameBoundCons (by omega) (by rintro rfl; exact fresh mem)]
  exact paired k mem v found

section Enter
variable {scope : List Variable} {bound : List Nat} {n m : Nat} {v : Variable}
  (own : v.identifier = Term.boundStart ++ toString n)
include own

theorem variableOfOwn : variableOf? (v :: scope) n = some v := by
  rw [variableOf?, List.find?_cons, own, beq_self_eq_true]

theorem variableOfOther {k : Nat} (other : k ≠ n) :
    variableOf? (v :: scope) k = variableOf? scope k := by
  have skip : (v.identifier == Term.boundStart ++ toString k) = false := by
    rw [own]
    exact beq_eq_false_iff_ne.mpr fun same => other (Naming.numeralInjective same).symm
  rw [variableOf?, List.find?_cons, skip]
  rfl

theorem Covers.enter (covers : Covers scope bound v.number) :
    Covers (v :: scope) (n :: bound) (v.number + 1) where
  reserved := by
    refine List.forall_mem_cons.mpr ⟨?_,covers.reserved⟩
    rw [own, String.toList_append]
    exact List.prefix_append ..
  found := by
    intro k mem
    by_cases same : k = n
    · rw [same]
      exact ⟨v,variableOfOwn own,Nat.lt_succ_self _⟩
    · obtain ⟨w, found, below⟩ := covers.found k ((List.mem_cons.mp mem).resolve_left same)
      exact ⟨w,by rwa [variableOfOther own same],Nat.lt_succ_of_lt below⟩

theorem Covers.enterPaired {pairs : List (Nat × Nat)} (covers : Covers scope bound v.number)
    (paired : Paired scope bound pairs) :
    Paired (v :: scope) (n :: bound) ((v.number,n) :: pairs) := by
  intro k mem w found
  by_cases same : k = n
  · rw [same, variableOfOwn own] at found
    cases found
    simp [Term.sameBound, same]
  · have older := (List.mem_cons.mp mem).resolve_left same
    rw [variableOfOther own same] at found
    obtain ⟨other, here, below⟩ := covers.found k older
    cases found.symm.trans here
    rw [sameBoundCons (by omega) same]
    exact paired k older w found

end Enter

/-! ### Nodes -/

theorem alphaEqConstant {a b : Term} (pairs : List (Nat × Nat)) (left : a.kind = .localConstant)
    (right : b.kind = .localConstant) (identifier : a.identifier? = b.identifier?)
    (name : a.identifier? = none → a.name? = b.name?) (noneLeft : a.children = [])
    (noneRight : b.children = []) : Term.alphaEqIn pairs a b = true := by
  rw [Term.alphaEqNode, left, right, noneLeft, noneRight, Term.alphaEqAll, Term.sameLabel, left,
    ← identifier]
  cases own : a.identifier? with
  | some l => simp
  | none => simp [name own]

theorem variableDecoded {scope : List Variable} {pairs : List (Nat × Nat)} {info : Info}
    {type? : Option Term} {n : Nat} (number : info.number = some n)
    (unnamed : info.identifier = none) {v : Variable} (found : variableOf? scope n = some v)
    (paired : Term.sameBound pairs v.number n = true) (d : Decoder) :
    Term.alphaEqIn pairs (build scope ((⟨.boundVar,info,[],type?⟩ : Term).tree false) d).1
      ⟨.boundVar,info,[],type?⟩ = true := by
  rw [Term.variableTree number unnamed, buildConstant]
  obtain ⟨other, read⟩ := Info.ofPairsTexts (Term.writtenVariable info n)
  rw [variableOf?] at found
  rw [read, known?]
  simp only [Term.writtenVariable, Option.bind_some, found]
  rw [Term.alphaEqNode]
  simp [Term.boundVar, Term.sameLabel, Term.number?, number, paired, Term.alphaEqAll]

theorem knownConstant {scope : List Variable} {bound : List Nat} {next : Nat}
    (covers : Covers scope bound next) {d : Decoder} (interns : d.Interns) {info : Info}
    (free : ∀ identifier, info.identifier = some identifier →
      ¬ Term.boundStart.toList <+: identifier.toList) {t : Term}
    (known : d.known? scope info = some t) :
    t.kind = .localConstant ∧ t.identifier? = info.identifier ∧ t.children = [] := by
  obtain ⟨identifier, own, found⟩ := Option.bind_eq_some_iff.mp known
  split at found
  · rename_i v here
    have same : v.identifier = identifier := eq_of_beq (by simpa using List.find?_some here)
    exact absurd (same ▸ covers.reserved v (List.mem_of_find?_eq_some here)) (free identifier own)
  · obtain ⟨entry, here, rfl⟩ := Option.map_eq_some_iff.mp found
    have same : entry.1 = identifier := eq_of_beq (by simpa using List.find?_some here)
    obtain ⟨kind, identifier, children⟩ := interns entry (List.mem_of_find?_eq_some here)
    exact ⟨kind,by rw [identifier, same, own],children⟩

theorem constantDecoded {scope : List Variable} {bound : List Nat} {next : Nat}
    (covers : Covers scope bound next) {d : Decoder} (interns : d.Interns) {info : Info}
    (free : ∀ identifier, info.identifier = some identifier →
      ¬ Term.boundStart.toList <+: identifier.toList) (type? : Option Term)
    (pairs : List (Nat × Nat)) :
    Term.alphaEqIn pairs (build scope ((⟨.localConstant,info,[],type?⟩ : Term).tree false) d).1
      ⟨.localConstant,info,[],type?⟩ = true := by
  obtain ⟨number, read⟩ := Info.ofPairsTexts info
  rw [Term.treeNode]
  show Term.alphaEqIn pairs (build scope ⟨Kind.localConstant.tag,info.pairs,_⟩ d).1 _ = true
  rw [buildConstant, read]
  split
  · rename_i t known
    obtain ⟨kind, identifier, children⟩ := knownConstant covers interns free known
    refine alphaEqConstant pairs kind rfl identifier ?_ children rfl
    intro unnamed
    -- a term is known by its identifier only
    rw [identifier] at unnamed
    rw [known?] at known
    simp [unnamed] at known
  · exact alphaEqConstant pairs rfl rfl rfl (fun _ => rfl) rfl rfl
  · exact alphaEqConstant pairs rfl rfl rfl (fun _ => rfl) rfl rfl

theorem childrenDecoded {scope : List Variable} {bound : List Nat} {pairs : List (Nat × Nat)}
    {ts : List Term}
    (each : ∀ t ∈ ts, ∀ d : Decoder, d.Interns → Covers scope bound d.nextNumber →
      Term.alphaEqIn pairs (build scope (t.tree false) d).1 t = true) (index : Nat) :
    ∀ d : Decoder, d.Interns → Covers scope bound d.nextNumber →
      Term.alphaEqAll pairs (buildAll scope (Term.trees false index ts) d).1 ts = true := by
  induction ts generalizing index with
  | nil =>
    intro d _ _
    rw [Term.trees, buildAll, Term.alphaEqAll]
  | cons t ts ih =>
    intro d interns covers
    obtain ⟨first, rest⟩ := List.forall_mem_cons.mp each
    have after := buildFollows (t.tree false) scope d
    rw [Term.trees, Bool.false_and, buildAll, Term.alphaEqAll, first d interns covers,
      ih rest (index + 1) _ (after.interns interns) (covers.later after.next)]
    rfl

theorem sameLabelTexts {a b : Term} (pairs : List (Nat × Nat)) (other : a.kind ≠ .boundVar)
    (name : a.name? = b.name?) (value : a.value? = b.value?)
    (identifier : a.identifier? = b.identifier?) : Term.sameLabel pairs a b = true := by
  rw [Term.sameLabel, name, value, identifier]
  split
  · exact absurd ‹_› other
  · cases b.identifier? <;> simp
  all_goals simp

theorem alphaEqCompound {kind : Kind} (notVariable : kind ≠ .boundVar)
    (notBinder : kind.isBinder = false) {pairs : List (Nat × Nat)} {ts children : List Term}
    (below : Term.alphaEqAll pairs ts children = true) (info : Info) (number : Option Nat)
    (type? : Option Term) :
    Term.alphaEqIn pairs (compound kind { info with number } ts) ⟨kind,info,children,type?⟩ =
      true := by
  have unbound (t : Term) (same : t.kind = kind) : t.boundNumber? = none := by
    simp [Term.boundNumber?, Term.boundVar?, same, notBinder]
  have label : Term.sameLabel pairs (compound kind { info with number } ts)
      ⟨kind,info,children,type?⟩ = true := sameLabelTexts pairs notVariable rfl rfl rfl
  rw [Term.alphaEqNode, label, Term.pairBinders, unbound _ rfl, unbound _ rfl]
  simp only [compound, alphaEqSiblings, below, beq_self_eq_true, Bool.and_true]

theorem compoundDecoded {scope : List Variable} {bound : List Nat} {pairs : List (Nat × Nat)}
    {kind : Kind} {info : Info} {children : List Term} {type? : Option Term}
    (notVariable : kind ≠ .boundVar) (notConstant : kind ≠ .localConstant)
    (notBinder : kind.isBinder = false) (code : kind ≠ .rawCode)
    (each : ∀ t ∈ children, ∀ d : Decoder, d.Interns → Covers scope bound d.nextNumber →
      Term.alphaEqIn pairs (build scope (t.tree false) d).1 t = true) {d : Decoder}
    (interns : d.Interns) (covers : Covers scope bound d.nextNumber) :
    Term.alphaEqIn pairs (build scope ((⟨kind,info,children,type?⟩ : Term).tree false) d).1
      ⟨kind,info,children,type?⟩ = true := by
  have counted := checkCountFollows d kind.tag kind (Term.trees false 0 children).length
  have below := childrenDecoded each 0 _ (counted.interns interns) (covers.later counted.next)
  obtain ⟨number, read⟩ := Info.ofPairsTexts info
  rw [Term.compoundTree notVariable notConstant code, notBinder,
    buildCompound notConstant (.inl notBinder) rfl, read]
  exact alphaEqCompound notVariable notBinder below info number type?

theorem alphaEqDeclared {own info : Info} {n : Nat} (number : own.number = some n) (m : Nat)
    (type : Term) (ownType? : Option Term) (pairs : List (Nat × Nat)) :
    Term.alphaEqIn ((m,n) :: pairs) (declared info m type) ⟨.boundVar,own,[],ownType?⟩ = true := by
  rw [Term.alphaEqNode]
  simp [declared, Term.sameLabel, Term.number?, number, Term.sameBound, Term.alphaEqAll]

theorem alphaEqBinder {kind : Kind} (binds : kind.isBinder = true) {info info' own own' : Info}
    {m n : Nat} {number : Option Nat} (read : info' = { info with number })
    (ownNumber : own.number = some n) {type type' body body' : Term}
    {type? type?' ownType? : Option Term} {pairs : List (Nat × Nat)}
    (typed : Term.alphaEqIn ((m,n) :: pairs) type' type = true)
    (inside : Term.alphaEqIn ((m,n) :: pairs) body' body = true) :
    Term.alphaEqIn pairs ⟨kind,info',[type',declared own' m type',body'],type?'⟩
      ⟨kind,info,[type,⟨.boundVar,own,[],ownType?⟩,body],type?⟩ = true := by
  have notVariable : kind ≠ .boundVar := by rintro rfl; cases binds
  have label : Term.sameLabel pairs ⟨kind,info',[type',declared own' m type',body'],type?'⟩
      ⟨kind,info,[type,⟨.boundVar,own,[],ownType?⟩,body],type?⟩ = true := by
    rw [read]
    exact sameLabelTexts pairs notVariable rfl rfl rfl
  have left : (⟨kind,info',[type',declared own' m type',body'],type?'⟩ : Term).boundNumber? =
      some m := by
    rw [Term.boundNumber?, Term.boundVar?, if_pos binds]
    rfl
  have right : (⟨kind,info,[type,⟨.boundVar,own,[],ownType?⟩,body],type?⟩ : Term).boundNumber? =
      some n := by
    rw [Term.boundNumber?, Term.boundVar?, if_pos binds]
    exact ownNumber
  rw [Term.alphaEqNode, label, Term.pairBinders, left, right]
  simp only [Term.alphaEqAll, typed, inside, alphaEqDeclared ownNumber, beq_self_eq_true,
    Bool.and_true]

theorem binderBuilt {scope : List Variable} {kind : Kind} {info own : Info} {type body : Term}
    {ownType? type? : Option Term} {n : Nat} (binds : kind.isBinder = true)
    (number : own.number = some n) (unnamed : own.identifier = none) (d : Decoder) :
    ∃ (typed inside : Decoder) (v : Variable) (info' own' : Info),
      Follows d typed ∧ Follows typed inside ∧ v.identifier = Term.boundStart ++ toString n ∧
        typed.nextNumber ≤ v.number ∧ inside.nextNumber = v.number + 1 ∧
        (∃ number, info' = { info with number }) ∧
        ∃ type?', (build scope
          ((⟨kind,info,[type,⟨.boundVar,own,[],ownType?⟩,body],type?⟩ : Term).tree false) d).1 =
          ⟨kind,info',[(build scope (type.tree false) typed).1,
            declared own' v.number (build scope (type.tree false) typed).1,
            (build (v :: scope) (body.tree false) inside).1],type?'⟩ := by
  have counted := checkCountFollows d kind.tag kind 3
  have after := buildFollows (type.tree false) scope (d.checkCount kind.tag kind 3)
  obtain ⟨number', read⟩ := Info.ofPairsTexts info
  obtain ⟨other, readOwn⟩ := Info.ofPairsTexts (Term.writtenVariable own n)
  -- the variable as the body finds it in scope
  let v : Variable :=
    ⟨Term.boundStart ++ toString n,
      (build scope (type.tree false) (d.checkCount kind.tag kind 3)).2.nextNumber,
      (build scope (type.tree false) (d.checkCount kind.tag kind 3)).1⟩
  have entered : enter (Info.ofPairs (Term.writtenVariable own n).pairs) v.number v.type scope =
      v :: scope := by
    rw [readOwn]
    rfl
  refine ⟨_,_,v,_,Info.ofPairs (Term.writtenVariable own n).pairs,counted,
    after.trans (numberFollows _),rfl,after.next,rfl,⟨number',read⟩,?_⟩
  rw [Term.binderTree binds number unnamed, buildBinder binds rfl rfl, ← entered]
  exact ⟨_,rfl⟩

theorem binderDecoded {scope : List Variable} {bound : List Nat} {pairs : List (Nat × Nat)}
    {kind : Kind} {info own : Info} {type body : Term} {ownType? type? : Option Term} {n : Nat}
    (binds : kind.isBinder = true) (number : own.number = some n) (unnamed : own.identifier = none)
    (fresh : n ∉ bound)
    (typed : ∀ (pairs : List (Nat × Nat)) (d : Decoder), d.Interns →
      Covers scope bound d.nextNumber → Paired scope bound pairs →
      Term.alphaEqIn pairs (build scope (type.tree false) d).1 type = true)
    (inside : ∀ (scope : List Variable) (pairs : List (Nat × Nat)) (d : Decoder), d.Interns →
      Covers scope (n :: bound) d.nextNumber → Paired scope (n :: bound) pairs →
      Term.alphaEqIn pairs (build scope (body.tree false) d).1 body = true) {d : Decoder}
    (interns : d.Interns) (covers : Covers scope bound d.nextNumber)
    (paired : Paired scope bound pairs) :
    Term.alphaEqIn pairs
      (build scope
        ((⟨kind,info,[type,⟨.boundVar,own,[],ownType?⟩,body],type?⟩ : Term).tree false) d).1
      ⟨kind,info,[type,⟨.boundVar,own,[],ownType?⟩,body],type?⟩ = true := by
  obtain ⟨first, second, v, info', own', counted, after, named, above, next, ⟨number', read⟩,
    type?', built⟩ := @binderBuilt scope kind info own type body ownType? type? n binds number
      unnamed d
  have interned := counted.interns interns
  have atType := covers.later counted.next
  have atBinder : Covers scope bound v.number := atType.later above
  rw [built]
  refine alphaEqBinder binds read number ?_ ?_
  · exact typed _ _ interned atType
      (covers.paired paired (Nat.le_trans counted.next above) fresh)
  · exact inside _ _ _ (after.interns interned) (next ▸ atBinder.enter named)
      (atBinder.enterPaired named paired)

theorem termDecoded {bound : List Nat} {t : Term} (closed : Term.ScopedIn bound t) :
    ∀ (scope : List Variable) (pairs : List (Nat × Nat)) (d : Decoder), t.Clean → d.Interns →
      Covers scope bound d.nextNumber → Paired scope bound pairs →
      Term.alphaEqIn pairs (build scope (t.tree false) d).1 t = true := by
  induction closed with
  | @occurrence bound info type? n number unnamed inside =>
    intro scope pairs d _ _ covers paired
    obtain ⟨v, found, _⟩ := covers.found n inside
    exact variableDecoded number unnamed found (paired n inside v found) d
  | constant free =>
    intro scope pairs d _ interns covers _
    exact constantDecoded covers interns free _ pairs
  | binder binds number unnamed fresh typed inside ihType ihBody =>
    intro scope pairs d clean interns covers paired
    cases clean with
    | node code plain below _ =>
      simp only [List.forall_mem_cons] at below
      obtain ⟨cleanType, _, cleanBody, _⟩ := below
      exact binderDecoded binds number unnamed fresh
        (fun pairs d interns covers paired => ihType scope pairs d cleanType interns covers paired)
        (fun scope pairs d interns covers paired => ihBody scope pairs d cleanBody interns covers paired)
        interns covers paired
  | compound notVariable notConstant notBinder below ih =>
    intro scope pairs d clean interns covers paired
    cases clean with
    | node code plain cleanBelow _ =>
      exact compoundDecoded notVariable notConstant notBinder code
        (fun t mem d interns covers => ih t mem scope pairs d (cleanBelow t mem) interns covers paired)
        interns covers

end Decoder

end ProofTutor
