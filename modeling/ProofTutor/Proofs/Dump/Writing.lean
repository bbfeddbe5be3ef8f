import ProofTutor.Proofs.Dump.Rebuilding
import ProofTutor.Proofs.Term.ChosenName

/-!
Decoded terms can be written. What is read keeps the marks of the format out of tags and texts, decoding
takes over what it finds, and chosen names have no marks in them.
-/
namespace ProofTutor

namespace Decoder

theorem writableNumerals (type : Term) {t : Term} (writable : t.Writable) :
    (typeNumerals type t).Writable := by
  induction writable with
  | @node kind info children type? tag plain below typed ih _ =>
    cases type? with
    | some own =>
      rw [typeNumerals]
      exact .node tag plain below typed
    | none =>
      rw [typeNumerals]
      split
      · rename_i numeral
        rw [typeNumeralsInMap]
        refine .node tag plain (by simpa using ih) ?_
        rintro rfl
        cases numeral
      · exact .node tag plain below typed

theorem writableSiblings {ts : List Term} (writable : ∀ t ∈ ts, t.Writable) :
    ∀ t ∈ typeSiblings ts, t.Writable := by
  rw [typeSiblings]
  split
  · rw [typeNumeralsInMap]
    intro t mem
    obtain ⟨child, inside, rfl⟩ := List.mem_map.mp mem
    exact writableNumerals _ (writable child inside)
  · exact writable

def InternsWritable (d : Decoder) : Prop :=
  ∀ entry ∈ d.interned, entry.2.Writable

theorem variableWritable {own : Info} (plain : own.Plain) (number : Nat) (binder : Option String)
    (type : Term) (marked : Info.Free binder) :
    Term.Writable ⟨.boundVar,{ name := some (own.name.getD ""), number := some number, binder },[],
      some type⟩ := by
  have name : Info.Free (some (own.name.getD "")) := by
    cases given : own.name with
    | none => rintro _ ⟨⟩; simp
    | some text => exact given ▸ (Info.plainFields.mp plain).1
  have plain' : Info.Plain { name := some (own.name.getD ""), number := some number, binder } :=
    Info.plainFields.mpr ⟨name,by simp [Info.Free],by simp [Info.Free],marked,by simp⟩
  have code : Kind.boundVar ≠ .rawCode := by decide
  obtain ⟨tag, head⟩ := Term.headWritten code plain'
  exact .node tag head (by simp) (by simp)

theorem knownWritable {d : Decoder} (interns : InternsWritable d) {info : Info} (plain : info.Plain)
    {scope : List Variable} {t : Term} (known : d.known? scope info = some t) : t.Writable := by
  obtain ⟨identifier, _, found⟩ := Option.bind_eq_some_iff.mp known
  split at found
  · cases found
    exact variableWritable plain _ none _ (by simp [Info.Free])
  · obtain ⟨entry, here, rfl⟩ := Option.map_eq_some_iff.mp found
    exact interns entry (List.mem_of_find?_eq_some here)

theorem internWritable {d : Decoder} (interns : InternsWritable d) {t : Term} (writable : t.Writable) :
    InternsWritable (d.intern t) := by
  rw [intern]
  split
  · exact List.forall_mem_cons.mpr ⟨writable,interns⟩
  · exact interns

def BuildsWritable (tree : Tree) : Prop :=
  ∀ (scope : List Variable) (d : Decoder), InternsWritable d →
    (build scope tree d).1.Writable ∧ InternsWritable (build scope tree d).2

theorem countWritable {d : Decoder} (interns : InternsWritable d) (tag : String) (kind : Kind)
    (found : Nat) : InternsWritable (d.checkCount tag kind found) := by
  rw [InternsWritable, checkCountInterned]
  exact interns

theorem buildAllWritable {ts : List Tree} (each : ∀ t ∈ ts, BuildsWritable t) (scope : List Variable)
    {d : Decoder} (interns : InternsWritable d) :
    (∀ t ∈ (buildAll scope ts d).1, t.Writable) ∧ InternsWritable (buildAll scope ts d).2 := by
  induction ts generalizing d with
  | nil =>
    rw [buildAll]
    exact ⟨by simp,interns⟩
  | cons t ts ih =>
    obtain ⟨first, rest⟩ := List.forall_mem_cons.mp each
    obtain ⟨writable, after⟩ := first scope d interns
    obtain ⟨others, last⟩ := ih rest after
    rw [buildAll]
    exact ⟨List.forall_mem_cons.mpr ⟨writable,others⟩,last⟩

section

variable {pairs : List (String × String)} (plain : (Info.ofPairs pairs).Plain)
include plain

theorem constantWritable {children : List Tree} (each : ∀ t ∈ children, BuildsWritable t) :
    BuildsWritable ⟨Kind.localConstant.tag,pairs,children⟩ := by
  intro scope d interns
  have code : Kind.localConstant ≠ .rawCode := by decide
  obtain ⟨tag, head⟩ := Term.headWritten code plain
  rw [buildConstant]
  split
  · exact ⟨knownWritable interns plain ‹_›,interns⟩
  · exact ⟨.node tag head (by simp) (by simp),interns⟩
  · obtain ⟨type, after⟩ := each _ List.mem_cons_self scope d interns
    have own : Term.Writable ⟨.localConstant,Info.ofPairs pairs,[],some (build scope _ d).1⟩ :=
      .node tag head (by simp) (by simpa using type)
    exact ⟨own,internWritable after own⟩

theorem binderWritable {kind : Kind} (binds : kind.isBinder = true)
    {typeTree variableTree bodyTree : Tree} (own : (Info.ofPairs variableTree.info).Plain)
    (type : BuildsWritable typeTree) (body : BuildsWritable bodyTree) :
    BuildsWritable ⟨kind.tag,pairs,[typeTree,variableTree,bodyTree]⟩ := by
  intro scope d interns
  have notConstant : kind ≠ .localConstant := by rintro rfl; cases binds
  have code : kind ≠ .rawCode := by rintro rfl; cases binds
  obtain ⟨tag, head⟩ := Term.headWritten code plain
  obtain ⟨typeWritable, typed⟩ := type scope _ (countWritable interns kind.tag kind 3)
  generalize first : build scope typeTree (d.checkCount kind.tag kind 3) = built at typeWritable typed
  obtain ⟨bodyWritable, after⟩ := body
    (enter (Info.ofPairs variableTree.info) built.2.nextNumber built.1 scope)
    { built.2 with nextNumber := built.2.nextNumber + 1 } typed
  rw [buildBinder binds first rfl]
  refine ⟨.node tag head ?_ fun same => absurd same notConstant,after⟩
  simp only [List.forall_mem_cons]
  exact ⟨typeWritable,variableWritable own _ _ _ (Info.plainFields.mp own).2.2.2.1,bodyWritable,by simp⟩

theorem compoundWritable {kind : Kind} (notConstant : kind ≠ .localConstant) (code : kind ≠ .rawCode)
    {children : List Tree} (free : kind.isBinder = false ∨ children.length ≠ 3)
    (each : ∀ t ∈ children, BuildsWritable t) : BuildsWritable ⟨kind.tag,pairs,children⟩ := by
  intro scope d interns
  obtain ⟨tag, head⟩ := Term.headWritten code plain
  obtain ⟨writable, after⟩ :=
    buildAllWritable each scope (countWritable interns kind.tag kind children.length)
  rw [buildCompound notConstant free rfl]
  exact ⟨.node tag head (writableSiblings writable) fun same => absurd same notConstant,after⟩

end

theorem buildWritable (tree : Tree) : tree.Lexical → tree.Ordinary → BuildsWritable tree := by
  induction tree using Tree.kindInduction with
  | unknown tag pairs children known ih =>
    intro lexical ordinary scope d interns
    cases lexical with
    | node tagged _ below =>
      obtain ⟨writable, after⟩ := buildAllWritable
        (fun t mem => ih t mem (below t mem) (ordinary.child mem)) scope
        (d := d.warn (.unknownTag tag)) interns
      rw [buildUnknown known]
      exact ⟨.node tagged (Term.plainTexts rfl rfl) writable (by simp),after⟩
  | constant pairs children ih =>
    intro lexical ordinary
    cases lexical with
    | node _ paired below =>
      exact constantWritable (Info.ofPairsPlain paired) fun t mem =>
        ih t mem (below t mem) (ordinary.child mem)
  | binder kind pairs typeTree variableTree bodyTree binds ihType ihBody =>
    intro lexical ordinary
    cases lexical with
    | node _ paired below =>
      have own : (Info.ofPairs variableTree.info).Plain := by
        cases below variableTree (by simp) with
        | node _ paired _ => exact Info.ofPairsPlain paired
      exact binderWritable (Info.ofPairsPlain paired) binds own
        (ihType (below typeTree (by simp)) (ordinary.child (by simp)))
        (ihBody (below bodyTree (by simp)) (ordinary.child (by simp)))
  | compound kind pairs children other free ih =>
    intro lexical ordinary
    have code : kind ≠ .rawCode := by
      rintro rfl
      exact ordinary.own.2.1 rfl
    cases lexical with
    | node _ paired below =>
      exact compoundWritable (Info.ofPairsPlain paired) other code free fun t mem =>
        ih t mem (below t mem) (ordinary.child mem)

end Decoder

/-! ### Named terms -/

namespace Naming

theorem renamedClear {renames : List (Nat × String)}
    (clear : ∀ rename ∈ renames, Info.Free (some rename.2)) {t : Term} (own : Info.Free t.info.name) :
    Info.Free (renamed renames t).info.name := by
  induction renames generalizing t with
  | nil => exact own
  | cons rename renames ih =>
    obtain ⟨first, others⟩ := List.forall_mem_cons.mp clear
    apply ih others
    obtain ⟨kind, info, children, type?⟩ := t
    show Info.Free (Term.renameBound rename.1 rename.2 ⟨kind,info,children,type?⟩).info.name
    rw [Term.renameBound]
    dsimp only
    split
    · exact first
    · exact own

theorem headRenamed {renames : List (Nat × String)}
    (clear : ∀ rename ∈ renames, Info.Free (some rename.2)) {kind : Kind} {info : Info}
    (children : List Term) (type? : Option Term)
    (tag : Tree.LexicalTag (Term.writtenHead kind info).1) (plain : (Term.writtenHead kind info).2.Plain) :
    Tree.LexicalTag
        (Term.writtenHead kind (renamed renames ⟨kind,info,children,type?⟩).info).1 ∧
      (Term.writtenHead kind (renamed renames ⟨kind,info,children,type?⟩).info).2.Plain := by
  have changed := renamedInfo renames ⟨kind,info,children,type?⟩
  by_cases free : kind = .boundVar → info.number = none
  · rw [changed.others free]
    exact ⟨tag,plain⟩
  · obtain ⟨bound, number⟩ := Classical.not_imp.mp free
    subst bound
    obtain ⟨name, _, identifier, binder, _⟩ := Info.plainFields.mp plain
    have shown := renamedClear clear (t := ⟨.boundVar,info,children,type?⟩) name
    obtain ⟨name', same⟩ := changed.name
    rw [same] at shown ⊢
    -- the identifier that a numbered variable is written with does not depend on its name
    have written : Term.writtenIdentifier { info with name := name' } = Term.writtenIdentifier info := by
      obtain ⟨n, numbered⟩ := Option.ne_none_iff_exists'.mp number
      rw [Term.writtenIdentifier, Term.writtenIdentifier, numbered]
      cases info.identifier <;> rfl
    refine ⟨tag,Info.plainFields.mpr ⟨shown,by rintro _ ⟨⟩,?_,binder,by rintro _ ⟨⟩⟩⟩
    show Info.Free (some (Term.writtenIdentifier { info with name := name' }))
    rw [written]
    exact identifier

theorem nameInWritable (naming : Naming) (outer : List String) {t : Term} (writable : t.Writable) :
    ∀ (scope : List Scoped) (renames : List (Nat × String)),
      (∀ s ∈ scope, Info.Free (some s.name)) → (∀ rename ∈ renames, Info.Free (some rename.2)) →
        (nameIn naming outer scope renames t).Writable := by
  induction writable with
  | @node kind info children type? tag plain below typed ih _ =>
    intro scope renames names clear
    cases bound : boundHere? (renamed renames ⟨kind,info,children,type?⟩) with
    | none =>
      obtain ⟨tag', plain'⟩ := headRenamed clear children type? tag plain
      rw [nameInUnnamed naming outer scope bound]
      refine .node tag' plain' (fun t mem => ?_) typed
      obtain ⟨child, inside, rfl⟩ := List.mem_map.mp mem
      exact ih child inside scope renames names clear
    | some n =>
      generalize chosen : nameOf naming outer scope (renamed renames ⟨kind,info,children,type?⟩) = name
      have own : Info.Free (some name) := by
        rw [← chosen, nameOf]
        refine chooseNameClear naming _ _ (fun name mem => ?_) _
        obtain ⟨s, inside, rfl⟩ := List.mem_map.mp mem
        exact names s (List.mem_of_mem_filter inside)
      have clear' : ∀ rename ∈ renames ++ [(n,name)], Info.Free (some rename.2) :=
        List.forall_mem_append.mpr ⟨clear,List.forall_mem_singleton.mpr own⟩
      obtain ⟨tag', plain'⟩ := headRenamed clear' children type? tag plain
      rw [nameInNamed naming outer scope bound chosen]
      refine .node tag' plain' (fun t mem => ?_) typed
      obtain ⟨child, inside, rfl⟩ := List.mem_map.mp mem
      exact ih child inside _ _
        (List.forall_mem_append.mpr ⟨names,List.forall_mem_singleton.mpr own⟩) clear'

theorem nameBoundWritable (naming : Naming) (outer : List String) {t : Term} (writable : t.Writable) :
    (naming.nameBound outer t).Writable :=
  nameInWritable naming outer writable [] [] (by simp) (by simp)

end Naming

end ProofTutor
