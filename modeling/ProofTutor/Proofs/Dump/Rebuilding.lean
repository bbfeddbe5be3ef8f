import ProofTutor.Proofs.Dump.Decoding
import ProofTutor.Proofs.Dump.Formation
import ProofTutor.Proofs.Dump.Lexing
import ProofTutor.Proofs.Term.Bare

/-!
Decoding what was decoded. A decoded term with other names for its bound variables is written as a tree
that is decoded in the same order, with the same numbers and the same constants known at each node, so
it comes back up to types, as long as every type that counts is written.
-/
namespace ProofTutor

/-! ### Trees and terms -/

def Tree.Ordinary (t : Tree) : Prop :=
  ∀ node ∈ t.nodes, node.tag ≠ Kind.boundVar.tag ∧ node.tag ≠ Kind.rawCode.tag ∧
    ∀ identifier ∈ (Info.ofPairs node.info).identifier,
      ¬ Term.boundStart.toList <+: identifier.toList

instance (t : Tree) : Decidable t.Ordinary :=
  haveI (node : Tree) : Decidable (node.tag ≠ Kind.boundVar.tag ∧ node.tag ≠ Kind.rawCode.tag ∧
      ∀ identifier ∈ (Info.ofPairs node.info).identifier,
        ¬ Term.boundStart.toList <+: identifier.toList) := inferInstance
  List.decidableBAll _ t.nodes

theorem Tree.Ordinary.child {tag : String} {info : List (String × String)} {children : List Tree}
    (ordinary : Tree.Ordinary ⟨tag,info,children⟩) {t : Tree} (mem : t ∈ children) : t.Ordinary := by
  intro node below
  apply ordinary
  rw [Tree.nodesNode]
  exact List.mem_cons_of_mem _ (List.mem_flatMap.mpr ⟨t,mem,below⟩)

theorem Tree.Ordinary.own {tag : String} {info : List (String × String)} {children : List Tree}
    (ordinary : Tree.Ordinary ⟨tag,info,children⟩) : tag ≠ Kind.boundVar.tag ∧
      tag ≠ Kind.rawCode.tag ∧ ∀ identifier ∈ (Info.ofPairs info).identifier,
        ¬ Term.boundStart.toList <+: identifier.toList := by
  apply ordinary ⟨tag,info,children⟩
  rw [Tree.nodesNode]
  exact List.mem_cons_self

namespace Term

def hidesType (kind : Kind) (children : List Term) : Bool :=
  kind.isBinder && children[1]?.any fun v => v.kind == .localConstant && v.hasType

mutual

def isWhole : Term → Bool
  | ⟨kind, _, children, type?⟩ =>
    !hidesType kind children && isWholeAll children && (kind != .localConstant || isWholeType type?)

def isWholeAll : List Term → Bool
  | [] => true
  | t :: ts => isWhole t && isWholeAll ts

def isWholeType : Option Term → Bool
  | none => true
  | some type => isWhole type

end

theorem isWholeAllIff (ts : List Term) : isWholeAll ts = true ↔ ∀ t ∈ ts, t.isWhole = true := by
  induction ts with
  | nil => simp [isWholeAll]
  | cons t ts ih => rw [isWholeAll, Bool.and_eq_true, ih, List.forall_mem_cons]

structure Whole (kind : Kind) (children : List Term) (type? : Option Term) : Prop where
  shown : hidesType kind children = false
  below : ∀ t ∈ children, t.isWhole = true
  typed : kind = .localConstant → ∀ type ∈ type?, type.isWhole = true

theorem wholeNode {kind : Kind} {info : Info} {children : List Term} {type? : Option Term}
    (whole : isWhole ⟨kind,info,children,type?⟩ = true) : Whole kind children type? := by
  rw [isWhole, Bool.and_eq_true, Bool.and_eq_true, isWholeAllIff] at whole
  obtain ⟨⟨shown, below⟩, typed⟩ := whole
  refine ⟨by simpa using shown,below,?_⟩
  rintro rfl type ⟨⟩
  simpa [isWholeType] using typed

theorem treeDeclared {t : Term} (bare : ¬(t.kind = .localConstant ∧ t.hasType = true)) :
    t.tree true = t.tree false := by
  obtain ⟨kind, info, children, type?⟩ := t
  rw [treeNode, treeNode]
  by_cases constant : kind = .localConstant
  · cases type? with
    | none => simp [constant]
    | some type => exact absurd ⟨constant,rfl⟩ bare
  · simp [constant]

theorem treesLater (inBinder : Bool) {index : Nat} (later : inBinder = false ∨ 2 ≤ index)
    (ts : List Term) : trees inBinder index ts = ts.map (tree false) := by
  induction ts generalizing index with
  | nil => rw [trees, List.map_nil]
  | cons t ts ih =>
    have undeclared : (inBinder && index == 1) = false := by
      rcases later with outside | later
      · rw [outside, Bool.false_and]
      · rw [beq_eq_false_iff_ne.mpr (by omega), Bool.and_false]
    rw [trees, undeclared, ih (later.imp_right fun le => by omega), List.map_cons]

theorem treesShown {kind : Kind} {children : List Term} (shown : hidesType kind children = false) :
    trees kind.isBinder 0 children = children.map (tree false) := by
  match children with
  | [] => rw [trees, List.map_nil]
  | [t] => simp [trees]
  | first :: v :: ts =>
    rw [trees, trees, treesLater _ (.inr (by omega)), List.map_cons, List.map_cons]
    cases binds : kind.isBinder with
    | false => rfl
    | true =>
      have own : v.tree true = v.tree false := by
        apply treeDeclared
        simpa [hidesType, binds] using shown
      simp [own]

theorem constantTree (info : Info) (type? : Option Term) :
    (⟨.localConstant,info,[],type?⟩ : Term).tree false =
      ⟨Kind.localConstant.tag,info.pairs,(type?.map (tree false)).toList⟩ := by
  rw [treeNode]
  cases type? with
  | none => simp [writtenHead, trees]
  | some type => simp [writtenHead]

/-! ### Names -/

structure Dressing (kind : Kind) (before after : Info) : Prop where
  renames : Naming.Renames kind before after
  named : before.name.isSome → after.name.isSome

inductive Dresses : Term → Term → Prop where
  | node {kind : Kind} {info info' : Info} {children children' : List Term} {type? type?' : Option Term}
      (own : Dressing kind info info') (typed : kind = .localConstant → type?' = type?)
      (below : List.Forall₂ Dresses children children') :
      Dresses ⟨kind,info,children,type?⟩ ⟨kind,info',children',type?'⟩

theorem Dressing.other {kind : Kind} {info info' : Info} (dressing : Dressing kind info info')
    (notVariable : kind ≠ .boundVar) : info' = info :=
  dressing.renames.others fun same => absurd same notVariable

theorem dressesMap {f : Term → Term} {ts : List Term} (each : ∀ t ∈ ts, Dresses t (f t)) :
    List.Forall₂ Dresses ts (ts.map f) :=
  List.forall₂_map_right_iff.mpr (List.forall₂_same.mpr each)

theorem dressesSelf (t : Term) : Dresses t t := by
  induction t using nodeInduction with
  | node kind info children type? ih =>
    exact .node ⟨bareRenames kind info,id⟩ (fun _ => rfl) (List.forall₂_same.mpr ih)

end Term

namespace Naming

theorem renamedSome (renames : List (Nat × String)) {t : Term} (named : t.info.name.isSome) :
    (renamed renames t).info.name.isSome := by
  induction renames generalizing t with
  | nil => exact named
  | cons rename renames ih =>
    apply ih
    obtain ⟨kind, info, children, type?⟩ := t
    show (Term.renameBound rename.1 rename.2 ⟨kind,info,children,type?⟩).info.name.isSome
    rw [Term.renameBound]
    dsimp only
    split
    · rfl
    · exact named

theorem dressesNamed (naming : Naming) (outer : List String) (t : Term) :
    ∀ (scope : List Scoped) (renames : List (Nat × String)),
      Term.Dresses t (nameIn naming outer scope renames t) := by
  induction t using Term.nodeInduction with
  | node kind info children type? ih =>
    intro scope renames
    obtain ⟨own, inner, renames', same⟩ :=
      nameInNode naming outer scope renames kind info children type?
    rw [same]
    refine .node ⟨renamedInfo own ⟨kind,info,children,type?⟩,fun named => ?_⟩ (fun _ => rfl)
      (Term.dressesMap fun t mem => ih t mem inner renames')
    exact renamedSome own (t := ⟨kind,info,children,type?⟩) named

end Naming

namespace Decoder

/-! ### Types of numerals -/

theorem dressesNumerals (type t : Term) : ∀ o, Term.Dresses (typeNumerals type t) o →
    Term.Dresses t o := by
  induction t using Term.nodeInduction with
  | node kind info children type? ih =>
    intro o dresses
    cases type? with
    | some own => rwa [typeNumerals] at dresses
    | none =>
      rw [typeNumerals] at dresses
      split at dresses
      · rename_i numeral
        rw [typeNumeralsInMap] at dresses
        cases dresses with
        | node own typed below =>
          refine .node own ?_ ?_
          · rintro rfl
            cases numeral
          · rw [List.forall₂_map_left_iff] at below
            exact ((List.forall₂_and_left _ _).mpr ⟨ih,below⟩).imp fun _ o both => both.1 o both.2
      · exact dresses

theorem dressesSiblings {ts os : List Term} (dresses : List.Forall₂ Term.Dresses (typeSiblings ts) os) :
    List.Forall₂ Term.Dresses ts os := by
  rw [typeSiblings] at dresses
  split at dresses
  · rw [typeNumeralsInMap, List.forall₂_map_left_iff] at dresses
    exact dresses.imp fun t o => dressesNumerals _ t o
  · exact dresses

theorem bareNumerals (type t : Term) : (typeNumerals type t).bare = t.bare := by
  induction t using Term.nodeInduction with
  | node kind info children type? ih =>
    cases type? with
    | some own => rw [typeNumerals]
    | none =>
      rw [typeNumerals]
      split
      · have below : (children.map (typeNumerals type)).map Term.bare = children.map Term.bare := by
          rw [List.map_map]
          exact List.map_congr_left ih
        rw [typeNumeralsInMap, Term.bareNode, Term.bareNode, below]
      · rfl

theorem bareSiblings (ts : List Term) : (typeSiblings ts).map Term.bare = ts.map Term.bare := by
  rw [typeSiblings]
  split
  · rw [typeNumeralsInMap, List.map_map]
    exact List.map_congr_left fun t _ => bareNumerals _ t
  · rfl

/-! ### Two decodings side by side -/

structure Mirrors (d d' : Decoder) : Prop where
  next : d'.nextNumber = d.nextNumber
  known : ∀ identifier,
    (d'.interned? identifier).map Term.bare = (d.interned? identifier).map Term.bare

structure Reflects (scope scope' : List Variable) : Prop where
  reserved : ∀ v ∈ scope', v.identifier = Term.boundStart ++ toString v.number
  listed : ∀ v ∈ scope, ∃ v' ∈ scope', v'.number = v.number

theorem Mirrors.warn {d d' : Decoder} (mirrors : Mirrors d d') (w w' : Warning) :
    Mirrors (d.warn w) (d'.warn w') :=
  ⟨mirrors.next,mirrors.known⟩

theorem Mirrors.count {d d' : Decoder} (mirrors : Mirrors d d') (tag : String) (kind : Kind)
    (found found' : Nat) : Mirrors (d.checkCount tag kind found) (d'.checkCount tag kind found') := by
  have next (d : Decoder) (found : Nat) : (d.checkCount tag kind found).nextNumber = d.nextNumber := by
    rw [checkCount]
    split
    · split <;> rfl
    · rfl
  refine ⟨by rw [next, next, mirrors.next],fun identifier => ?_⟩
  rw [interned?, interned?, checkCountInterned, checkCountInterned]
  exact mirrors.known identifier

theorem Mirrors.number {d d' : Decoder} (mirrors : Mirrors d d') :
    Mirrors { d with nextNumber := d.nextNumber + 1 } { d' with nextNumber := d'.nextNumber + 1 } :=
  ⟨congrArg Nat.succ mirrors.next,mirrors.known⟩

theorem Mirrors.intern {d d' : Decoder} (mirrors : Mirrors d d') {t t' : Term}
    (same : t'.bare = t.bare) : Mirrors (d.intern t) (d'.intern t') := by
  have identifier : t'.identifier? = t.identifier? := by
    obtain ⟨kind, info, children, type?⟩ := t
    obtain ⟨kind', info', children', type?'⟩ := t'
    rw [Term.bareNode, Term.bareNode] at same
    exact congrArg Info.identifier (Term.mk.inj same).2.1
  rw [Decoder.intern, Decoder.intern, identifier]
  cases t.identifier? with
  | none => exact mirrors
  | some own =>
    refine ⟨mirrors.next,fun other => ?_⟩
    rw [interned?, interned?]
    by_cases here : own = other
    · rw [List.find?_cons_of_pos (by simpa using here), List.find?_cons_of_pos (by simpa using here)]
      simpa using same
    · rw [List.find?_cons_of_neg (by simpa using here), List.find?_cons_of_neg (by simpa using here)]
      exact mirrors.known other

namespace Reflects

variable {scope scope' : List Variable} (reflects : Reflects scope scope')
include reflects

theorem enter (own : Info) (number : Nat) (type type' : Term) :
    Reflects (Decoder.enter own number type scope)
      (⟨Term.boundStart ++ toString number,number,type'⟩ :: scope') where
  reserved := List.forall_mem_cons.mpr ⟨rfl,reflects.reserved⟩
  listed := by
    have older : ∀ v ∈ scope, ∃ v' ∈ (⟨Term.boundStart ++ toString number,number,type'⟩ :: scope' :
        List Variable), v'.number = v.number := by
      intro v mem
      obtain ⟨v', mem', same⟩ := reflects.listed v mem
      exact ⟨v',List.mem_cons_of_mem _ mem',same⟩
    rw [Decoder.enter]
    split
    · exact List.forall_mem_cons.mpr ⟨⟨_,List.mem_cons_self,rfl⟩,older⟩
    · exact older

theorem found {v : Variable} (mem : v ∈ scope) :
    ∃ v', variableOf? scope' v.number = some v' ∧ v'.number = v.number := by
  obtain ⟨w, listed, same⟩ := reflects.listed v mem
  cases found : variableOf? scope' v.number with
  | none =>
    have own := reflects.reserved w listed
    rw [same] at own
    exact absurd (List.find?_eq_none.mp found w listed) (by simp [own])
  | some v' =>
    have own := reflects.reserved v' (List.mem_of_find?_eq_some found)
    have identifier : v'.identifier = Term.boundStart ++ toString v.number :=
      eq_of_beq (by simpa using List.find?_some found)
    exact ⟨v',rfl,Naming.numeralInjective (own.symm.trans identifier)⟩

theorem outside {info : Info}
    (free : ∀ identifier ∈ info.identifier, ¬ Term.boundStart.toList <+: identifier.toList)
    (d : Decoder) : d.known? scope' info = info.identifier.bind d.interned? := by
  apply knownFree
  intro inside
  obtain ⟨identifier, own, listed⟩ := (Option.any_eq_true ..).mp inside
  obtain ⟨v, mem, rfl⟩ := List.mem_map.mp (List.contains_iff_mem.mp listed)
  refine free v.identifier own ?_
  rw [reflects.reserved v mem, String.toList_append]
  exact List.prefix_append ..

theorem unknown {info : Info} {d d' : Decoder} (mirrors : Mirrors d d')
    (free : ∀ identifier ∈ info.identifier, ¬ Term.boundStart.toList <+: identifier.toList)
    (known : d.known? scope info = none) : d'.known? scope' info = none := by
  rw [reflects.outside free]
  cases own : info.identifier with
  | none => rfl
  | some identifier =>
    rw [known?, own, Option.bind_some] at known
    split at known
    · cases known
    · have same := mirrors.known identifier
      rw [known] at same
      simpa using same

end Reflects

structure Rebuilt (o : Term) (first second : Term × Decoder) : Prop where
  term : second.1.bare = o.bare
  mirrors : Mirrors first.2 second.2

def Rebuilds (tree : Tree) : Prop :=
  ∀ (scope scope' : List Variable) (d d' : Decoder) (o : Term), d.Interns → Reflects scope scope' →
    Mirrors d d' → Term.Dresses (build scope tree d).1 o → o.isWhole = true →
      Rebuilt o (build scope tree d) (build scope' (o.tree false) d')

theorem buildAllLength (scope : List Variable) (ts : List Tree) (d : Decoder) :
    (buildAll scope ts d).1.length = ts.length := by
  induction ts generalizing d with
  | nil =>
    rw [buildAll]
    rfl
  | cons t ts ih => rw [buildAll, List.length_cons, List.length_cons, ih]

theorem allRebuilt {ts : List Tree} (each : ∀ t ∈ ts, Rebuilds t) {scope scope' : List Variable}
    (reflects : Reflects scope scope') {d d' : Decoder} (interns : d.Interns) (mirrors : Mirrors d d')
    {os : List Term} (dresses : List.Forall₂ Term.Dresses (buildAll scope ts d).1 os)
    (whole : ∀ o ∈ os, o.isWhole = true) :
    (buildAll scope' (os.map (Term.tree false)) d').1.map Term.bare = os.map Term.bare ∧
      Mirrors (buildAll scope ts d).2 (buildAll scope' (os.map (Term.tree false)) d').2 := by
  induction ts generalizing d d' os with
  | nil =>
    rw [buildAll] at dresses ⊢
    cases dresses
    rw [List.map_nil, buildAll]
    exact ⟨rfl,mirrors⟩
  | cons t ts ih =>
    obtain ⟨first, rest⟩ := List.forall_mem_cons.mp each
    rw [buildAll] at dresses ⊢
    cases dresses with
    | @cons _ o _ os own others =>
      obtain ⟨wholeFirst, wholeRest⟩ := List.forall_mem_cons.mp whole
      have rebuilt := first scope scope' d d' o interns reflects mirrors own wholeFirst
      obtain ⟨terms, after⟩ := ih rest ((buildFollows t scope d).interns interns) rebuilt.mirrors
        others wholeRest
      rw [List.map_cons, buildAll]
      exact ⟨by rw [List.map_cons, List.map_cons, rebuilt.term, terms],after⟩

theorem dressedConstant {t o : Term} (dresses : Term.Dresses t o) (constant : t.kind = .localConstant)
    (childless : t.children = []) : o = ⟨.localConstant,t.info,[],t.type?⟩ ∧ o.bare = t.bare := by
  cases dresses with
  | node own typed below =>
    obtain rfl := constant
    obtain rfl := childless
    cases below
    obtain rfl := own.other (by decide)
    obtain rfl := typed rfl
    exact ⟨rfl,rfl⟩

theorem dressedVariable {info : Info} {type? : Option Term} {o : Term}
    (dresses : Term.Dresses ⟨.boundVar,info,[],type?⟩ o) (named : info.name.isSome) :
    ∃ shown type?', o = ⟨.boundVar,{ info with name := some shown },[],type?'⟩ := by
  cases dresses with
  | @node _ _ _ _ _ _ type?' dressing _ below =>
    cases below
    obtain ⟨name, rfl⟩ := dressing.renames.name
    obtain ⟨shown, rfl⟩ := Option.isSome_iff_exists.mp (dressing.named named)
    exact ⟨shown,type?',rfl⟩

theorem dressedBinder {kind : Kind} (notVariable : kind ≠ .boundVar) {info own : Info} {n : Nat}
    {type body o : Term} {type? : Option Term}
    (dresses : Term.Dresses ⟨kind,info,[type,declared own n type,body],type?⟩ o) :
    ∃ type' body' shown own? type?',
      o = ⟨kind,info,[type',
        ⟨.boundVar,{ name := some shown, number := some n, binder := own.binder },[],own?⟩,body'],type?'⟩ ∧
      Term.Dresses type type' ∧ Term.Dresses body body' := by
  cases dresses with
  | @node _ _ _ _ children' _ type?' dressing _ below =>
    obtain rfl := dressing.other notVariable
    obtain ⟨type', _, first, two, rfl⟩ := List.forall₂_cons_left_iff.mp below
    obtain ⟨variable', _, second, one, rfl⟩ := List.forall₂_cons_left_iff.mp two
    obtain ⟨body', _, third, end', rfl⟩ := List.forall₂_cons_left_iff.mp one
    cases end'
    obtain ⟨shown, own?, rfl⟩ := dressedVariable second rfl
    exact ⟨type',body',shown,own?,type?',rfl,first,third⟩

theorem knownRebuilt {pairs : List (String × String)} {children : List Tree}
    (ordinary : Tree.Ordinary ⟨Kind.localConstant.tag,pairs,children⟩) {scope scope' : List Variable}
    (reflects : Reflects scope scope') {d d' : Decoder} (interns : d.Interns) (mirrors : Mirrors d d')
    {t o : Term} (known : d.known? scope (Info.ofPairs pairs) = some t) (dresses : Term.Dresses t o) :
    Rebuilt o (t,d) (build scope' (o.tree false) d') := by
  have free := ordinary.own.2.2
  obtain ⟨identifier, own, found⟩ := Option.bind_eq_some_iff.mp known
  split at found
  · rename_i v here
    cases found
    obtain ⟨v', there, number⟩ := reflects.found (List.mem_of_find?_eq_some here)
    obtain ⟨shown, type?', rfl⟩ := dressedVariable dresses rfl
    rw [Term.variableTree rfl rfl, buildConstant, Info.ofPairsPairs, known?]
    rw [variableOf?] at there
    simp only [Term.writtenVariable, Option.bind_some, there]
    refine ⟨?_,mirrors⟩
    rw [Term.boundVar, Term.bareNode, Term.bareNode, number]
    rfl
  · obtain ⟨entry, here, rfl⟩ := Option.map_eq_some_iff.mp found
    obtain ⟨constant, identified, childless⟩ := interns entry (List.mem_of_find?_eq_some here)
    obtain ⟨shape, same⟩ := dressedConstant dresses constant childless
    have key : entry.1 = identifier := eq_of_beq (by simpa using List.find?_some here)
    have named : entry.2.info.identifier = some identifier := key ▸ identified
    have again : (d'.interned? identifier).map Term.bare = some entry.2.bare := by
      rw [mirrors.known, interned?, here]
      rfl
    obtain ⟨t', found, bare⟩ := Option.map_eq_some_iff.mp again
    have met : d'.known? scope' (Info.ofPairs entry.2.info.pairs) = some t' := by
      rw [Info.ofPairsPairs, reflects.outside (by simpa [named] using free identifier own)]
      simpa [named] using found
    rw [shape, Term.constantTree, buildConstant, met]
    exact ⟨by rw [← shape, same, bare],mirrors⟩

theorem constantRebuilt {pairs : List (String × String)} {children : List Tree}
    (ordinary : Tree.Ordinary ⟨Kind.localConstant.tag,pairs,children⟩)
    (each : ∀ t ∈ children, Rebuilds t) : Rebuilds ⟨Kind.localConstant.tag,pairs,children⟩ := by
  intro scope scope' d d' o interns reflects mirrors dresses whole
  rw [buildConstant] at dresses ⊢
  cases known : d.known? scope (Info.ofPairs pairs) with
  | some t =>
    rw [known] at dresses
    exact knownRebuilt ordinary reflects interns mirrors known dresses
  | none =>
    rw [known] at dresses
    have unknown : d'.known? scope' (Info.ofPairs (Info.ofPairs pairs).pairs) = none := by
      rw [Info.ofPairsAgain]
      exact reflects.unknown mirrors ordinary.own.2.2 known
    cases children with
    | nil =>
      obtain ⟨rfl, _⟩ := dressedConstant dresses rfl rfl
      dsimp only
      rw [Term.constantTree, buildConstant, unknown]
      rw [Info.ofPairsAgain]
      exact ⟨rfl,mirrors⟩
    | cons typeTree others =>
      obtain ⟨rfl, _⟩ := dressedConstant dresses rfl rfl
      dsimp only at whole ⊢
      have typed := each typeTree List.mem_cons_self scope scope' d d' _ interns reflects mirrors
        (Term.dressesSelf (build scope typeTree d).1) ((Term.wholeNode whole).typed rfl _ rfl)
      rw [Term.constantTree, buildConstant, unknown]
      refine ⟨?_,typed.mirrors.intern ?_⟩
      · rw [Info.ofPairsAgain]
        rfl
      · rw [Info.ofPairsAgain]
        rfl

theorem compoundRebuilt {kind : Kind} {pairs : List (String × String)} {children : List Tree}
    (ordinary : Tree.Ordinary ⟨kind.tag,pairs,children⟩) (notConstant : kind ≠ .localConstant)
    (free : kind.isBinder = false ∨ children.length ≠ 3) (each : ∀ t ∈ children, Rebuilds t) :
    Rebuilds ⟨kind.tag,pairs,children⟩ := by
  intro scope scope' d d' o interns reflects mirrors dresses whole
  have notVariable : kind ≠ .boundVar := by
    rintro rfl
    exact ordinary.own.1 rfl
  have code : kind ≠ .rawCode := by
    rintro rfl
    exact ordinary.own.2.1 rfl
  rw [buildCompound notConstant free rfl] at dresses ⊢
  cases dresses with
  | @node _ _ info' _ os _ type?' own _ below =>
    obtain rfl := own.other notVariable
    obtain ⟨shown, wholeAll, _⟩ := Term.wholeNode whole
    have below := dressesSiblings below
    have length : (os.map (Term.tree false)).length = children.length := by
      rw [List.length_map, ← below.length_eq, buildAllLength]
    have counted := mirrors.count kind.tag kind children.length children.length
    obtain ⟨terms, after⟩ := allRebuilt each reflects
      ((checkCountFollows d kind.tag kind children.length).interns interns) counted below wholeAll
    rw [Term.compoundTree notVariable notConstant code, Term.treesShown shown,
      buildCompound notConstant (by rwa [length]) rfl, length]
    refine ⟨?_,after⟩
    rw [compound, Term.bareNode, Term.bareNode, bareSiblings, terms, Info.ofPairsAgain]

theorem unknownRebuilt {tag : String} {pairs : List (String × String)} {children : List Tree}
    (unknown : Kind.ofTag? tag = none) (each : ∀ t ∈ children, Rebuilds t) :
    Rebuilds ⟨tag,pairs,children⟩ := by
  intro scope scope' d d' o interns reflects mirrors dresses whole
  rw [buildUnknown unknown] at dresses ⊢
  cases dresses with
  | @node _ _ info' _ os _ type?' own _ below =>
    obtain rfl := own.other (by decide)
    obtain ⟨shown, wholeAll, _⟩ := Term.wholeNode whole
    obtain ⟨terms, after⟩ := allRebuilt each reflects (d := d.warn (.unknownTag tag)) interns
      (mirrors.warn (.unknownTag tag) (.unknownTag tag)) below wholeAll
    have written : (⟨.rawCode,Info.named tag,os,type?'⟩ : Term).tree false =
        ⟨tag,[],os.map (Term.tree false)⟩ := by
      rw [Term.treeNode, ← Term.treesShown shown]
      rfl
    rw [written, buildUnknown unknown]
    refine ⟨?_,after⟩
    rw [Term.bareNode, Term.bareNode, terms]

theorem declaredBare (own : Info) (n : Nat) (type : Term) :
    (declared (Info.ofPairs (Term.writtenVariable own n).pairs) n type).bare =
      ⟨.boundVar,{ name := some (own.name.getD ""), number := some n, binder := own.binder },[],
        none⟩ := by
  rw [Info.ofPairsPairs]
  rfl

theorem binderRebuilt {kind : Kind} (binds : kind.isBinder = true) {pairs : List (String × String)}
    {typeTree variableTree bodyTree : Tree} (type : Rebuilds typeTree) (body : Rebuilds bodyTree) :
    Rebuilds ⟨kind.tag,pairs,[typeTree,variableTree,bodyTree]⟩ := by
  intro scope scope' d d' o interns reflects mirrors dresses whole
  have notVariable : kind ≠ .boundVar := by rintro rfl; cases binds
  obtain ⟨type₁, d₁, first⟩ : ∃ t e, build scope typeTree (d.checkCount kind.tag kind 3) = (t,e) :=
    ⟨_,_,rfl⟩
  obtain ⟨body₁, e₁, last⟩ : ∃ t e, build (enter (Info.ofPairs variableTree.info) d₁.nextNumber type₁
      scope) bodyTree { d₁ with nextNumber := d₁.nextNumber + 1 } = (t,e) := ⟨_,_,rfl⟩
  rw [buildBinder binds first last] at dresses ⊢
  have counted := (checkCountFollows d kind.tag kind 3).interns interns
  have interned : d₁.Interns := by
    have after := (buildFollows typeTree scope (d.checkCount kind.tag kind 3)).interns counted
    rwa [first] at after
  obtain ⟨type', body', shown, own?, type?', rfl, dressesType, dressesBody⟩ :=
    dressedBinder notVariable dresses
  obtain ⟨_, wholeAll, _⟩ := Term.wholeNode whole
  simp only [List.forall_mem_cons] at wholeAll
  obtain ⟨wholeType, _, wholeBody, _⟩ := wholeAll
  -- the type comes back first, and the number after it is the same as before
  have typed := type scope scope' _ (d'.checkCount kind.tag kind 3) type' counted reflects
    (mirrors.count kind.tag kind 3 3) (first ▸ dressesType) wholeType
  rw [first] at typed
  obtain ⟨type₂, d₂, second⟩ : ∃ t e,
      build scope' (type'.tree false) (d'.checkCount kind.tag kind 3) = (t,e) := ⟨_,_,rfl⟩
  rw [second] at typed
  have next : d₂.nextNumber = d₁.nextNumber := typed.mirrors.next
  have inside := body _ _ { d₁ with nextNumber := d₁.nextNumber + 1 }
    { d₂ with nextNumber := d₂.nextNumber + 1 } body' interned
    (reflects.enter (Info.ofPairs variableTree.info) d₁.nextNumber type₁ type₂)
    typed.mirrors.number (last ▸ dressesBody) wholeBody
  rw [last] at inside
  have entered (own : Info) : enter
      (Info.ofPairs (Term.writtenVariable own d₁.nextNumber).pairs) d₂.nextNumber type₂ scope' =
        ⟨Term.boundStart ++ toString d₁.nextNumber,d₁.nextNumber,type₂⟩ :: scope' := by
    rw [Info.ofPairsPairs, next]
    rfl
  rw [Term.binderTree binds rfl rfl, buildBinder binds second rfl, entered]
  refine ⟨?_,inside.mirrors⟩
  rw [Term.bareNode, Term.bareNode, Info.ofPairsAgain]
  simp only [List.map_cons, List.map_nil]
  rw [typed.term, inside.term, next, declaredBare]
  rfl

theorem rebuilt (tree : Tree) : tree.Ordinary → Rebuilds tree := by
  induction tree using Tree.kindInduction with
  | unknown tag pairs children known ih =>
    intro ordinary
    exact unknownRebuilt known fun t mem => ih t mem (ordinary.child mem)
  | constant pairs children ih =>
    intro ordinary
    exact constantRebuilt ordinary fun t mem => ih t mem (ordinary.child mem)
  | binder kind pairs typeTree variableTree bodyTree binds ihType ihBody =>
    intro ordinary
    exact binderRebuilt binds (ihType (ordinary.child (by simp))) (ihBody (ordinary.child (by simp)))
  | compound kind pairs children other free ih =>
    intro ordinary
    exact compoundRebuilt ordinary other free fun t mem => ih t mem (ordinary.child mem)

end Decoder

end ProofTutor
