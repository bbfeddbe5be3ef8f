import ProofTutor.Proofs.Dump.Scoping
import ProofTutor.Proofs.Term.Rereading

/-!
Lexical scoping of the terms and goals that are returned. What is read keeps its scopes when its bound
variables are named, its context put in order and its local constants renamed.
-/
namespace ProofTutor

structure WellScoped (tree : Tree) (t : Term) : Prop where
  scopes : tree.Scopes [] t
  closed : tree.Unbound → t.Bound []

theorem wellScoped {tree : Tree} {t : Term} (scopes : tree.Scopes [] t) : WellScoped tree t :=
  ⟨scopes,fun unbound => scopes.closed unbound (by simp)⟩

theorem WellScoped.retain {tree : Tree} {t t' : Term} (built : WellScoped tree t)
    (same : t'.skeleton = t.skeleton) : WellScoped tree t' :=
  wellScoped (built.scopes.retain same)

theorem builtScoped (tree : Tree) {d : Decoder} (interns : d.Interns) :
    WellScoped tree (Decoder.build [] tree d).1 :=
  wellScoped (Decoder.buildScopes tree [] d interns)

namespace Dump

open Decoder

/-! ### Goals as they are read -/

structure Numbered (before after : Decoder) (ts : List Term) : Prop where
  interns : after.Interns
  next : before.nextNumber ≤ after.nextNumber
  given : GivenOut before.nextNumber after.nextNumber (ts.flatMap Term.binderNumbers)

theorem Numbered.append {first second third : Decoder} {ts us : List Term}
    (one : Numbered first second ts) (two : Numbered second third us) :
    Numbered first third (ts ++ us) where
  interns := two.interns
  next := Nat.le_trans one.next two.next
  given := by
    rw [List.flatMap_append]
    exact one.given.append two.given one.next two.next

theorem numberedNone {before after : Decoder} (interns : after.Interns)
    (next : before.nextNumber ≤ after.nextNumber) : Numbered before after [] :=
  ⟨interns,next,givenNone _ _⟩

theorem warnNumbered {d : Decoder} (interns : d.Interns) (w : Warning) : Numbered d (d.warn w) [] :=
  numberedNone interns (Nat.le_refl _)

theorem builtNumbered (tree : Tree) {d : Decoder} (interns : d.Interns) :
    Numbered d (build [] tree d).2 [(build [] tree d).1] where
  interns := (buildFollows tree [] d).interns interns
  next := (buildFollows tree [] d).next
  given := by
    rw [List.flatMap_singleton]
    exact buildNumbers tree [] d interns

theorem contextScoped (lines : List (List Char)) {d : Decoder} (interns : d.Interns) :
    List.Forall₂ (fun r e => WellScoped r.tail e.type) (declarations lines) (readContext lines d).1 ∧
      Numbered d (readContext lines d).2 ((readContext lines d).1.map Term.type) := by
  induction lines generalizing d with
  | nil => exact ⟨.nil,interns,Nat.le_refl _,givenNone _ _⟩
  | cons line lines ih =>
    rw [readContext]
    cases read : Record.read? line with
    | none =>
      rw [declarationsOther (by simp [read])]
      have warned := warnNumbered interns (.malformedEntry (.ofList line))
      obtain ⟨entries, numbered⟩ := ih warned.interns
      exact ⟨entries,warned.append numbered⟩
    | some r =>
      dsimp only
      by_cases named : (Info.ofPairs r.head.info).name = none
      · rw [declarationsOther (by simpa [read] using named), entryNameless named]
        have warned := warnNumbered interns (.namelessEntry r.head.tag)
        obtain ⟨entries, numbered⟩ := ih warned.interns
        exact ⟨entries,warned.append numbered⟩
      · rw [declarationsOwn read named, entryNamed named]
        have built := builtNumbered r.tail interns
        have follows := internFollows (build [] r.tail d).2
          (t := ⟨.localConstant,entryInfo r,[],some (build [] r.tail d).1⟩) rfl rfl
        have met := numberedNone (follows.interns built.interns) follows.next
        obtain ⟨entries, numbered⟩ := ih met.interns
        exact ⟨.cons (builtScoped r.tail interns) entries,(built.append met).append numbered⟩

structure ScopedRaw (g : GoalRecords) (raw : RawGoal) : Prop where
  target : WellScoped g.target.tail raw.target
  context : List.Forall₂ (fun r e => WellScoped r.tail e.type) g.declarations raw.context

def RawGoal.terms (raw : RawGoal) : List Term := raw.context.map Term.type ++ [raw.target]

theorem goalsScoped (blocks : List (List (List Char))) (index : Nat) (texts : List (List Char))
    {d : Decoder} (interns : d.Interns) :
    List.Forall₂ ScopedRaw (goalRecords blocks index texts) (readGoals blocks index texts d).1 ∧
      Numbered d (readGoals blocks index texts d).2
        ((readGoals blocks index texts d).1.flatMap RawGoal.terms) := by
  induction texts generalizing index d with
  | nil => exact ⟨.nil,numberedNone interns (Nat.le_refl _)⟩
  | cons text texts ih =>
    rw [goalRecords, readGoals]
    cases read : Record.read? text with
    | none =>
      have warned := warnNumbered interns (.malformedTarget (.ofList text))
      obtain ⟨goals, numbered⟩ := ih (index + 1) warned.interns
      exact ⟨goals,warned.append numbered⟩
    | some target =>
      obtain ⟨entries, context⟩ := contextScoped (blockAt blocks index) interns
      have built := builtNumbered target.tail context.interns
      obtain ⟨goals, numbered⟩ := ih (index + 1) built.interns
      exact ⟨.cons ⟨builtScoped target.tail context.interns,entries⟩ goals,
        (context.append built).append numbered⟩

/-! ### Goals as they are finished -/

theorem skeletonShown (naming : Naming) (raw : RawGoal) (t : Term) :
    (shown naming raw t).skeleton = t.skeleton := by
  have renamed (renamings : List Renaming) (t : Term) :
      (renameAll renamings t).skeleton = t.skeleton := by
    induction renamings generalizing t with
    | nil => rfl
    | cons r renamings ih => exact (ih _).trans (Term.skeletonRenamed r.identifier r.name t)
  rw [shown, Term.skeletonNamed, renamed]

theorem skeletonEntry (naming : Naming) (raw : RawGoal) {t t' : Term} (renamed : Renamed t t') :
    (entryOf naming raw t').type.skeleton = t.type.skeleton := by
  obtain ⟨name, rfl⟩ := renamed
  obtain ⟨kind, info, children, type?⟩ := t
  cases type? with
  | none => rfl
  | some type => exact skeletonShown naming raw type

structure ScopedGoal (g : GoalRecords) (goal : Goal) : Prop where
  target : WellScoped g.target.tail goal.target
  context : ∃ entries, entries.Perm goal.context ∧
    List.Forall₂ (fun r (e : Entry) => WellScoped r.tail e.type) g.declarations entries

theorem entriesMatched (naming : Naming) (raw : RawGoal) :
    ∃ entries, entries.Perm (finish naming raw).context ∧
      List.Forall₂ (fun t (e : Entry) => e.type.skeleton = t.type.skeleton) raw.context entries := by
  have ordered : List.Forall₂ (fun t (e : Entry) => e.type.skeleton = t.type.skeleton)
      (ordered raw.context) (finish naming raw).context := by
    rw [finishEq, List.forall₂_map_right_iff]
    exact (separatedMatched naming raw).imp fun t t' related => skeletonEntry naming raw related.1
  obtain ⟨entries, same, perm⟩ := List.perm_comp_forall₂ (orderedPerm raw.context).symm ordered
  exact ⟨entries,perm,same⟩

theorem ScopedRaw.finish {g : GoalRecords} {raw : RawGoal} (read : ScopedRaw g raw)
    (naming : Naming) : ScopedGoal g (finish naming raw) where
  target := read.target.retain (skeletonShown naming raw raw.target)
  context := by
    obtain ⟨entries, perm, same⟩ := entriesMatched naming raw
    exact ⟨entries,perm,(matchedTrans read.context same).imp
      fun r e ⟨t, built, alike⟩ => built.retain alike⟩

theorem alikeNumbers {ts : List Term} {entries : List Entry}
    (same : List.Forall₂ (fun t (e : Entry) => e.type.skeleton = t.type.skeleton) ts entries) :
    entries.flatMap (fun e => e.type.binderNumbers) = ts.flatMap fun t => t.type.binderNumbers := by
  induction same with
  | nil => rfl
  | cons here _ ih => rw [List.flatMap_cons, List.flatMap_cons, ih, Term.binderNumbersSame here]

theorem finishNumbers (naming : Naming) (raw : RawGoal) :
    ((finish naming raw).terms.flatMap Term.binderNumbers).Perm
      (raw.terms.flatMap Term.binderNumbers) := by
  obtain ⟨entries, perm, same⟩ := entriesMatched naming raw
  have target := Term.binderNumbersSame (skeletonShown naming raw raw.target)
  have ordered : ((finish naming raw).context.flatMap fun e => e.type.binderNumbers).Perm
      (raw.context.flatMap fun t => t.type.binderNumbers) := by
    rw [← alikeNumbers same]
    exact perm.symm.flatMap_right _
  rw [Goal.terms, RawGoal.terms, List.flatMap_cons, List.flatMap_append, List.flatMap_map,
    List.flatMap_map, List.flatMap_singleton]
  exact (List.perm_append_comm.trans (ordered.append_right _)).trans
    (.of_eq (congrArg _ target))

/-- Texts and dumps are read by lexical scoping. The binders of a term, and those of all goals of two
dumps together, have numbers of their own. -/
theorem lexicallyScoped (naming : Naming) :
    (∀ text t, Term.read naming text = .ok t → t.binderNumbers.Nodup ∧
      ∃ tree rest, Tree.read? (Text.strip text.toList) = some (tree,rest) ∧ WellScoped tree t) ∧
    ∀ context targets,
      ((decode naming context targets).state.goals.flatMap
        fun g => g.terms.flatMap Term.binderNumbers).Nodup ∧
      List.Forall₂ ScopedGoal
        (goalRecords (contextBlocks context.toList) 0 (targetTexts targets.toList))
        (decode naming context targets).state.goals := by
  have interns : ({} : Decoder).Interns := by simp [Decoder.Interns]
  constructor
  · intro text t found
    rw [Term.read] at found
    split at found
    · cases found
    · rename_i tree rest parts
      split at found
      · obtain rfl := Except.ok.inj found
        have named := Term.skeletonNamed naming (build [] tree {}).1.localNames (build [] tree {}).1
        refine ⟨?_,tree,rest,parts,(builtScoped tree interns).retain named⟩
        rw [Term.binderNumbersSame named]
        exact (buildNumbers tree [] {} interns).once
      · cases found
  · intro context targets
    obtain ⟨goals, numbered⟩ :=
      goalsScoped (contextBlocks context.toList) 0 (targetTexts targets.toList) interns
    have decoded : (decode naming context targets).state.goals =
        (readGoals (contextBlocks context.toList) 0 (targetTexts targets.toList) {}).1.map
          (finish naming) := rfl
    rw [decoded]
    constructor
    · have once := numbered.given.once
      rw [List.flatMap_assoc] at once
      rw [List.flatMap_map]
      exact ((List.Perm.refl _).flatMap fun raw _ => finishNumbers naming raw).nodup_iff.mpr once
    · rw [List.forall₂_map_right_iff]
      exact goals.imp fun g raw read => read.finish naming

def shadowedOver : String :=
  "QUANT_∀¿(TYPE¿, LOCAL_CONSTANT¿[name:x/identifier:0¿]¿, QUANT_∃¿(" ++
    "LOCAL_CONSTANT¿[name:x/identifier:0¿]¿, LOCAL_CONSTANT¿[name:x/identifier:0¿]¿, PROP_EQUAL¿(" ++
    "LOCAL_CONSTANT¿[name:x/identifier:0¿]¿, LOCAL_CONSTANT¿[name:a/identifier:1¿]¿)¿)¿)"

theorem shadowedScoped : ∃ t, Term.read {} shadowedOver = .ok t ∧ t.binderNumbers.length = 2 ∧
    t.binderNumbers.Nodup ∧ ∃ tree rest,
      Tree.read? (Text.strip shadowedOver.toList) = some (tree,rest) ∧ WellScoped tree t := by
  have spelled : shadowedOver.toList = _ := Term.joinedCharacters
  have numbers : (match Term.read {} shadowedOver with
      | .ok t => t.binderNumbers.length == 2
      | .error _ => false) = true := by
    rw [Term.read, spelled]
    decide +kernel
  split at numbers
  · rename_i t found
    exact ⟨t,found,eq_of_beq numbers,(lexicallyScoped {}).1 shadowedOver t found⟩
  · cases numbers

def belowVariable : Tree :=
  ⟨"QUANT_∀",[],[⟨"TYPE",[],[]⟩,
    ⟨"PROP_NOT",[],[⟨"LOCAL_CONSTANT",[("name","a"),("identifier","1")],[]⟩]⟩,⟨"PROP_TRUE",[],[]⟩]⟩

def belowVariableText : String :=
  "QUANT_∀¿(TYPE¿, PROP_NOT¿(LOCAL_CONSTANT¿" ++ "[name:a/identifier:1¿]" ++ "¿)¿, PROP_TRUE¿)"

/-- The variable takes the place of the second child with all that stands below it. -/
theorem belowVariableDropped :
    Tree.read? (Text.strip belowVariableText.toList) = some (belowVariable,[]) ∧
      ∃ t, Term.read {} belowVariableText = .ok t ∧ ∀ u ∈ t.nodes, u.kind ≠ .localConstant := by
  have spelled : belowVariableText.toList = _ := Term.joinedCharacters
  constructor
  · rw [spelled]
    rfl
  · have dropped : (match Term.read {} belowVariableText with
        | .ok t => t.nodes.all (·.kind != .localConstant)
        | .error _ => false) = true := by
      rw [Term.read, spelled]
      decide +kernel
    split at dropped
    · rename_i t found
      exact ⟨t,found,by simpa using dropped⟩
    · cases dropped

end Dump

end ProofTutor
