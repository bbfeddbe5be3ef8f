import ProofTutor.Proofs.Dump.Interning
import ProofTutor.Proofs.Term.Hygiene
import ProofTutor.Proofs.Term.Outline

/-!
The form of decoded terms. The variable of a binder with three children has a number that no enclosing
one has, an occurrence of it has this number, and a local constant is one that the tree has free.
-/
namespace ProofTutor

namespace Tree

mutual

def nodes : Tree → List Tree
  | ⟨tag, info, children⟩ => ⟨tag, info, children⟩ :: nodesOf children

def nodesOf : List Tree → List Tree
  | [] => []
  | t :: ts => nodes t ++ nodesOf ts

end

mutual

def free (bound : List String) : Tree → List Info
  | ⟨tag, pairs, children⟩ =>
    match Kind.ofTag? tag with
    | none => freeOf bound children
    | some kind =>
      let info := Info.ofPairs pairs
      if kind == .localConstant then
        if info.identifier.any (bound.contains ·) then [] else [info]
      else
        match kind.isBinder, children with
        | true, [typeTree, variableTree, bodyTree] =>
          free bound typeTree ++
            free ((Info.ofPairs variableTree.info).identifier.toList ++ bound) bodyTree
        | _, children => freeOf bound children

def freeOf (bound : List String) : List Tree → List Info
  | [] => []
  | t :: ts => free bound t ++ freeOf bound ts

end

theorem nodesNode (tag : String) (info : List (String × String)) (children : List Tree) :
    nodes ⟨tag,info,children⟩ = ⟨tag,info,children⟩ :: children.flatMap nodes := by
  have flat (ts : List Tree) : nodesOf ts = ts.flatMap nodes := by
    induction ts with
    | nil => rfl
    | cons t ts ih => rw [nodesOf, ih, List.flatMap_cons]
  rw [nodes, flat]

theorem freeOfFlat (bound : List String) (ts : List Tree) :
    freeOf bound ts = ts.flatMap (free bound) := by
  induction ts with
  | nil => rfl
  | cons t ts ih => rw [freeOf, ih, List.flatMap_cons]

theorem freeUnknown {tag : String} (unknown : Kind.ofTag? tag = none) (bound : List String)
    (pairs : List (String × String)) (children : List Tree) :
    free bound ⟨tag,pairs,children⟩ = children.flatMap (free bound) := by
  rw [free, unknown]
  exact freeOfFlat bound children

theorem freeConstant (bound : List String) (pairs : List (String × String)) (children : List Tree) :
    free bound ⟨Kind.localConstant.tag,pairs,children⟩ =
      if (Info.ofPairs pairs).identifier.any (bound.contains ·) then [] else [Info.ofPairs pairs] := by
  rw [free, Kind.tagRead]
  rfl

theorem freeBinder {kind : Kind} (binds : kind.isBinder = true) (bound : List String)
    (pairs : List (String × String)) (typeTree variableTree bodyTree : Tree) :
    free bound ⟨kind.tag,pairs,[typeTree,variableTree,bodyTree]⟩ = free bound typeTree ++
      free ((Info.ofPairs variableTree.info).identifier.toList ++ bound) bodyTree := by
  have other : ¬ (kind == .localConstant) = true := by
    intro same
    rw [eq_of_beq same] at binds
    cases binds
  rw [free, Kind.tagRead]
  dsimp only
  rw [if_neg other, binds]

theorem freeCompound {kind : Kind} {children : List Tree} (other : kind ≠ .localConstant)
    (plain : kind.isBinder = false ∨ children.length ≠ 3) (bound : List String)
    (pairs : List (String × String)) :
    free bound ⟨kind.tag,pairs,children⟩ = children.flatMap (free bound) := by
  rw [free, Kind.tagRead]
  dsimp only
  rw [if_neg (by simpa using other)]
  split
  · simp_all
  · exact freeOfFlat _ _

end Tree

namespace Decoder

variable {stray : Prop} {known single constant : Info → Prop}

/-! ### Types of numerals -/

theorem formedNumerals (type : Term) {above : List Nat} {t : Term}
    (formed : Term.Formed stray constant above t) :
    Term.Formed stray constant above (typeNumerals type t) := by
  induction formed with
  | @binder above kind info own typed body ownType? type? n binds number fresh first last _ _ =>
    have same : typeNumerals type ⟨kind,info,[typed,⟨.boundVar,own,[],ownType?⟩,body],type?⟩ =
        ⟨kind,info,[typed,⟨.boundVar,own,[],ownType?⟩,body],type?⟩ := by
      cases type? with
      | some own => rw [typeNumerals]
      | none =>
        rw [typeNumerals, if_neg]
        intro numeral
        cases binds.symm.trans (numeralNoBinder numeral)
    rw [same]
    exact .binder binds number fresh first last
  | @node above kind info children type? free own bound below ih =>
    cases type? with
    | some known =>
      rw [typeNumerals]
      exact .node free own bound below
    | none =>
      rw [typeNumerals, typeNumeralsInMap]
      split
      · refine .node (by simpa using free) own bound fun t mem => ?_
        obtain ⟨child, inside, rfl⟩ := List.mem_map.mp mem
        exact ih child inside
      · exact .node free own bound below

theorem formedSiblings {above : List Nat} {ts : List Term}
    (each : ∀ t ∈ ts, Term.Formed stray constant above t) :
    (typeSiblings ts).length = ts.length ∧
      ∀ t ∈ typeSiblings ts, Term.Formed stray constant above t := by
  rw [typeSiblings]
  split
  · rw [typeNumeralsInMap]
    refine ⟨List.length_map _,fun t mem => ?_⟩
    obtain ⟨child, inside, rfl⟩ := List.mem_map.mp mem
    exact formedNumerals _ (each child inside)
  · exact ⟨rfl,each⟩

/-! ### Interned terms -/

def InternsAll (single : Info → Prop) (d : Decoder) : Prop :=
  ∀ entry ∈ d.interned, single entry.2.info

structure Legible (stray : Prop) (single : Info → Prop) (tree : Tree) : Prop where
  tags : ∀ node ∈ tree.nodes, node.tag = Kind.boundVar.tag → stray
  single : ∀ node ∈ tree.nodes, node.tag = Kind.localConstant.tag → single (Info.ofPairs node.info)

theorem Legible.child {tag : String} {info : List (String × String)} {children : List Tree}
    (legible : Legible stray single ⟨tag,info,children⟩) {t : Tree} (mem : t ∈ children) :
    Legible stray single t := by
  have inside : ∀ node ∈ t.nodes, node ∈ Tree.nodes ⟨tag,info,children⟩ := by
    intro node below
    rw [Tree.nodesNode]
    exact List.mem_cons_of_mem _ (List.mem_flatMap.mpr ⟨t,mem,below⟩)
  exact ⟨fun node below => legible.tags node (inside node below),
    fun node below => legible.single node (inside node below)⟩

theorem Legible.own {tag : String} {info : List (String × String)} {children : List Tree}
    (legible : Legible stray single ⟨tag,info,children⟩) :
    (tag = Kind.boundVar.tag → stray) ∧
      (tag = Kind.localConstant.tag → single (Info.ofPairs info)) := by
  have mem : ⟨tag,info,children⟩ ∈ Tree.nodes ⟨tag,info,children⟩ := by
    rw [Tree.nodesNode]
    exact List.mem_cons_self
  exact ⟨legible.tags _ mem,legible.single _ mem⟩

theorem checkCountInterned (d : Decoder) (tag : String) (kind : Kind) (found : Nat) :
    (d.checkCount tag kind found).interned = d.interned := by
  rw [checkCount]
  split
  · split <;> rfl
  · rfl

theorem internSingle {d : Decoder} (interns : InternsAll single d) {t : Term} (own : single t.info) :
    InternsAll single (d.intern t) := by
  rw [intern]
  split
  · exact List.forall_mem_cons.mpr ⟨own,interns⟩
  · exact interns

theorem buildAllSingle {ts : List Tree}
    (each : ∀ t ∈ ts, ∀ scope d, InternsAll single d → InternsAll single (build scope t d).2)
    (scope : List Variable) {d : Decoder} (interns : InternsAll single d) :
    InternsAll single (buildAll scope ts d).2 := by
  induction ts generalizing d with
  | nil =>
    rw [buildAll]
    exact interns
  | cons t ts ih =>
    obtain ⟨first, rest⟩ := List.forall_mem_cons.mp each
    rw [buildAll]
    exact ih rest (first scope d interns)

theorem countSingle {d : Decoder} (interns : InternsAll single d) (tag : String) (kind : Kind)
    (found : Nat) : InternsAll single (d.checkCount tag kind found) := by
  rw [InternsAll, checkCountInterned]
  exact interns

theorem buildSingle (tree : Tree) : Legible stray single tree → ∀ (scope : List Variable) (d : Decoder),
    InternsAll single d → InternsAll single (build scope tree d).2 := by
  induction tree using Tree.kindInduction with
  | unknown tag pairs children known ih =>
    intro legible scope d interns
    rw [buildUnknown known]
    exact buildAllSingle (fun t mem => ih t mem (legible.child mem)) scope interns
  | constant pairs children ih =>
    intro legible scope d interns
    rw [buildConstant]
    split
    · exact interns
    · exact interns
    · rename_i typeTree others _
      have first : typeTree ∈ typeTree :: others := List.mem_cons_self
      exact internSingle (ih typeTree first (legible.child first) scope d interns) (legible.own.2 rfl)
  | binder kind pairs typeTree variableTree bodyTree binds ihType ihBody =>
    intro legible scope d interns
    rw [buildBinder binds rfl rfl]
    exact ihBody (legible.child (by simp)) _ _
      (ihType (legible.child (by simp)) scope _ (countSingle interns kind.tag kind 3))
  | compound kind pairs children other free ih =>
    intro legible scope d interns
    rw [buildCompound other free rfl]
    exact buildAllSingle (fun t mem => ih t mem (legible.child mem)) scope
      (countSingle interns kind.tag kind children.length)

/-! ### Built terms -/

structure Within (scope : List Variable) (above : List Nat) (next after : Nat) : Prop where
  listed : ∀ v ∈ scope, v.number ∈ above
  apart : ∀ n ∈ above, n < next ∨ after ≤ n

theorem Within.narrow {scope : List Variable} {above : List Nat} {next after next' after' : Nat}
    (within : Within scope above next after) (later : next ≤ next') (before : after' ≤ after) :
    Within scope above next' after' where
  listed := within.listed
  apart n mem := (within.apart n mem).imp (Nat.lt_of_lt_of_le · later) (Nat.le_trans before)

theorem Within.enclose {scope : List Variable} {above : List Nat} {next number : Nat}
    (within : Within scope above next number) : Within scope (number :: above) next number where
  listed v mem := List.mem_cons_of_mem _ (within.listed v mem)
  apart := List.forall_mem_cons.mpr ⟨.inr (Nat.le_refl _),within.apart⟩

theorem Within.enter {scope : List Variable} {above : List Nat} {number after : Nat}
    (within : Within scope above (number + 1) after) (info : Info) (type : Term) :
    Within (Decoder.enter info number type scope) (number :: above) (number + 1) after where
  listed := by
    rw [Decoder.enter]
    split
    · exact List.forall_mem_cons.mpr
        ⟨List.mem_cons_self,fun v mem => List.mem_cons_of_mem _ (within.listed v mem)⟩
    · exact fun v mem => List.mem_cons_of_mem _ (within.listed v mem)
  apart := List.forall_mem_cons.mpr ⟨.inl (Nat.lt_succ_self _),within.apart⟩

theorem enterIdentifiers (info : Info) (number : Nat) (type : Term) (scope : List Variable) :
    (enter info number type scope).map (·.identifier) =
      info.identifier.toList ++ scope.map (·.identifier) := by
  rw [enter]
  split
  · rename_i identifier own
    rw [own]
    rfl
  · rename_i anonymous
    rw [anonymous]
    rfl

theorem knownBound {scope : List Variable} {info : Info}
    (inside : info.identifier.any ((scope.map (·.identifier)).contains ·) = true) (d : Decoder) :
    ∃ v ∈ scope, d.known? scope info = some (.boundVar (info.name.getD "") v.number v.type) := by
  obtain ⟨identifier, own, listed⟩ := (Option.any_eq_true ..).mp inside
  obtain ⟨v, mem, rfl⟩ := List.mem_map.mp (List.contains_iff_mem.mp listed)
  cases found : scope.find? (·.identifier == v.identifier) with
  | some w =>
    refine ⟨w,List.mem_of_find?_eq_some found,?_⟩
    rw [known?, own, Option.bind_some, found]
  | none => exact absurd (List.find?_eq_none.mp found v mem) (by simp)

theorem knownFree {scope : List Variable} {info : Info}
    (outside : ¬ info.identifier.any ((scope.map (·.identifier)).contains ·) = true) (d : Decoder) :
    d.known? scope info = info.identifier.bind d.interned? := by
  rw [known?]
  refine Option.bind_congr fun identifier own => ?_
  cases found : scope.find? (·.identifier == identifier) with
  | some v =>
    have same : v.identifier = identifier := eq_of_beq (by simpa using List.find?_some found)
    refine absurd ((Option.any_eq_true ..).mpr ⟨identifier,own,?_⟩) outside
    rw [List.contains_iff_mem, ← same]
    exact List.mem_map_of_mem (List.mem_of_find?_eq_some found)
  | none => rfl

theorem allFormed {scope : List Variable} {above : List Nat} {ts : List Tree}
    (legible : ∀ t ∈ ts, Legible stray single t)
    (each : ∀ t ∈ ts, ∀ d : Decoder,
      Within scope above d.nextNumber (build scope t d).2.nextNumber → d.Interns →
        InternsAll single d → (∀ info ∈ t.free (scope.map (·.identifier)), known info) →
          Term.Formed stray constant above (build scope t d).1)
    {d : Decoder} (within : Within scope above d.nextNumber (buildAll scope ts d).2.nextNumber)
    (interns : d.Interns) (all : InternsAll single d)
    (free : ∀ info ∈ ts.flatMap (Tree.free (scope.map (·.identifier))), known info) :
    (buildAll scope ts d).1.length = ts.length ∧
      ∀ t ∈ (buildAll scope ts d).1, Term.Formed stray constant above t := by
  induction ts generalizing d with
  | nil => simp [buildAll]
  | cons t ts ih =>
    obtain ⟨first, rest⟩ := List.forall_mem_cons.mp each
    obtain ⟨legibleFirst, legibleRest⟩ := List.forall_mem_cons.mp legible
    rw [List.flatMap_cons] at free
    rw [buildAll] at within ⊢
    have after := buildFollows t scope d
    have later := @buildAllFollows ts (fun t _ => buildFollows t) scope (build scope t d).2
    have formed := first d (within.narrow (Nat.le_refl _) later.next) interns all
      fun info mem => free info (List.mem_append_left _ mem)
    obtain ⟨length, others⟩ := ih legibleRest rest (within.narrow after.next (Nat.le_refl _))
      (after.interns interns) (buildSingle t legibleFirst scope d all)
      fun info mem => free info (List.mem_append_right _ mem)
    exact ⟨by simp [length],List.forall_mem_cons.mpr ⟨formed,others⟩⟩

section Build
variable (settled : ∀ info info', known info → single info' → info'.identifier = info.identifier →
  constant info')
include settled

theorem constantFormed {scope : List Variable} {above : List Nat}
    (listed : ∀ v ∈ scope, v.number ∈ above) {d : Decoder} (interns : d.Interns)
    (all : InternsAll single d) {pairs : List (String × String)} {children : List Tree}
    (own : single (Info.ofPairs pairs))
    (free : ∀ info ∈ Tree.free (scope.map (·.identifier)) ⟨Kind.localConstant.tag,pairs,children⟩,
      known info) :
    Term.Formed stray constant above
      (build scope ⟨Kind.localConstant.tag,pairs,children⟩ d).1 := by
  have leaf {info : Info} {type? : Option Term} (own : constant info) :
      Term.Formed stray constant above ⟨.localConstant,info,[],type?⟩ :=
    .node (.inl rfl) (fun _ => own) (by simp) (by simp)
  rw [Tree.freeConstant] at free
  rw [buildConstant]
  by_cases inside : (Info.ofPairs pairs).identifier.any
      ((scope.map (·.identifier)).contains ·) = true
  · obtain ⟨v, mem, met⟩ := knownBound inside d
    rw [met]
    exact .node (.inl rfl) (by simp) (fun _ => .inr ⟨v.number,listed v mem,rfl⟩) (by simp)
  · rw [if_neg inside, List.forall_mem_singleton] at free
    rw [knownFree inside]
    cases met : (Info.ofPairs pairs).identifier.bind d.interned? with
    | some t =>
      obtain ⟨identifier, named, found⟩ := Option.bind_eq_some_iff.mp met
      obtain ⟨entry, here, rfl⟩ := Option.map_eq_some_iff.mp found
      have key : entry.1 = identifier := eq_of_beq (by simpa using List.find?_some here)
      have mem := List.mem_of_find?_eq_some here
      obtain ⟨kind, identified, childless⟩ := interns entry mem
      have constant' : constant entry.2.info := by
        refine settled _ _ free (all entry mem) ?_
        rw [named, ← key]
        exact identified
      generalize entry.2 = t at kind childless constant'
      obtain ⟨kind', info, children', type?⟩ := t
      obtain rfl : kind' = .localConstant := kind
      obtain rfl : children' = [] := childless
      exact leaf constant'
    | none =>
      have constant' := settled _ _ free own rfl
      cases children with
      | nil => exact leaf constant'
      | cons typeTree others => exact leaf constant'

theorem buildFormed (tree : Tree) : ∀ (scope : List Variable) (above : List Nat) (d : Decoder),
    Legible stray single tree → Within scope above d.nextNumber (build scope tree d).2.nextNumber →
      d.Interns → InternsAll single d →
        (∀ info ∈ tree.free (scope.map (·.identifier)), known info) →
          Term.Formed stray constant above (build scope tree d).1 := by
  induction tree using Tree.kindInduction with
  | unknown tag pairs children tagged ih =>
    intro scope above d legible within interns all free
    have legibleAll : ∀ t ∈ children, Legible stray single t := fun t mem => legible.child mem
    rw [Tree.freeUnknown tagged] at free
    rw [buildUnknown tagged] at within ⊢
    have warned := warnFollows d (rfl : (Warning.unknownTag tag).skips = false)
    obtain ⟨_, formed⟩ := allFormed legibleAll
      (fun t mem d => ih t mem scope above d (legibleAll t mem))
      (within.narrow warned.next (Nat.le_refl _)) interns all free
    exact .node (.inl rfl) (by simp) (by simp) formed
  | constant pairs children _ =>
    intro scope above d legible within interns all free
    exact constantFormed settled within.listed interns all (legible.own.2 rfl) free
  | binder kind pairs typeTree variableTree bodyTree binds ihType ihBody =>
    intro scope above d legible within interns all free
    have counted := checkCountFollows d kind.tag kind 3
    have all' := countSingle all kind.tag kind 3
    have legibleType : Legible stray single typeTree := legible.child (by simp)
    have legibleBody : Legible stray single bodyTree := legible.child (by simp)
    rw [Tree.freeBinder binds] at free
    rw [buildBinder binds rfl rfl] at within ⊢
    have typed := buildFollows typeTree scope (d.checkCount kind.tag kind 3)
    have inner := buildFollows bodyTree (enter (Info.ofPairs variableTree.info)
      (build scope typeTree (d.checkCount kind.tag kind 3)).2.nextNumber
      (build scope typeTree (d.checkCount kind.tag kind 3)).1 scope)
      { (build scope typeTree (d.checkCount kind.tag kind 3)).2 with
        nextNumber := (build scope typeTree (d.checkCount kind.tag kind 3)).2.nextNumber + 1 }
    have atType := within.narrow counted.next (Nat.le_trans (Nat.le_succ _) inner.next)
    have atBody := within.narrow
      (Nat.le_trans counted.next (Nat.le_trans typed.next (Nat.le_succ _))) (Nat.le_refl _)
    -- the number is given out between the type and the body, so it is new to both
    refine .binder binds rfl ?_ ?_ ?_
    · intro taken
      have outside := within.apart _ taken
      have before := Nat.le_trans counted.next typed.next
      have beyond := inner.next
      rcases outside with earlier | later
      · exact absurd (Nat.lt_of_lt_of_le earlier before) (Nat.lt_irrefl _)
      · exact absurd (Nat.le_trans beyond later) (Nat.not_succ_le_self _)
    · exact ihType scope _ _ legibleType atType.enclose (counted.interns interns) all'
        fun info mem => free info (List.mem_append_left _ mem)
    · refine ihBody _ _ _ legibleBody (atBody.enter _ _) (typed.interns (counted.interns interns))
        (buildSingle typeTree legibleType scope _ all') ?_
      rw [enterIdentifiers]
      exact fun info mem => free info (List.mem_append_right _ mem)
  | compound kind pairs children other plain ih =>
    intro scope above d legible within interns all free
    have legibleAll : ∀ t ∈ children, Legible stray single t := fun t mem => legible.child mem
    have counted := checkCountFollows d kind.tag kind children.length
    rw [Tree.freeCompound other plain] at free
    rw [buildCompound other plain rfl] at within ⊢
    obtain ⟨length, formed⟩ := allFormed legibleAll
      (fun t mem d => ih t mem scope above d (legibleAll t mem))
      (within.narrow counted.next (Nat.le_refl _)) (counted.interns interns)
      (countSingle all kind.tag kind children.length) free
    obtain ⟨kept, siblings⟩ := formedSiblings formed
    refine .node ?_ (fun same => absurd same other) ?_ siblings
    · rwa [kept, length]
    · rintro rfl
      exact .inl (legible.own.1 rfl)

end Build

end Decoder

end ProofTutor
