import Mathlib.Data.List.Forall2
import ProofTutor.Dump.Goals
import ProofTutor.Proofs.Term.Outline

/-!
What finishing a goal keeps: the context has the entries that were read, objects before propositions
and otherwise in their order, and only names change.
-/
namespace ProofTutor

/-! ### Lists matched one by one -/

section Matched
variable {α β γ : Type} {R : α → β → Prop}

theorem matchedAppend {as as' : List α} {bs : List β} (same : List.Forall₂ R (as ++ as') bs) :
    ∃ first last, bs = first ++ last ∧ List.Forall₂ R as first ∧ List.Forall₂ R as' last := by
  induction as generalizing bs with
  | nil => exact ⟨[],bs,rfl,.nil,same⟩
  | cons a as ih =>
    cases same with
    | cons here rest =>
      obtain ⟨first, last, rfl, one, two⟩ := ih rest
      exact ⟨_ :: first,last,rfl,.cons here one,two⟩

theorem matchedFilter {as : List α} {bs : List β} (same : List.Forall₂ R as bs) (p : β → Bool) :
    ∃ kept others, kept.Sublist as ∧ others.Sublist as ∧ (kept ++ others).Perm as ∧
      List.Forall₂ R kept (bs.filter p) ∧ List.Forall₂ R others (bs.filter (!p ·)) := by
  induction same with
  | nil => exact ⟨[],[],.slnil,.slnil,.refl _,.nil,.nil⟩
  | @cons a b as bs here rest ih =>
    obtain ⟨kept, others, inKept, inOthers, all, one, two⟩ := ih
    by_cases yes : p b
    · refine ⟨a :: kept,others,inKept.cons_cons a,inOthers.cons a,all.cons a,?_,?_⟩
      · rw [List.filter_cons_of_pos yes]
        exact .cons here one
      · rwa [List.filter_cons_of_neg (by simp [yes])]
    · refine ⟨kept,a :: others,inKept.cons a,inOthers.cons_cons a,?_,?_,?_⟩
      · exact List.perm_middle.trans (all.cons a)
      · rwa [List.filter_cons_of_neg yes]
      · rw [List.filter_cons_of_pos (by simp [yes])]
        exact .cons here two

theorem matchedAll {as : List α} {bs : List β} (same : List.Forall₂ R as bs) {Q : β → Prop}
    (each : ∀ a ∈ as, ∀ b, R a b → Q b) : ∀ b ∈ bs, Q b := by
  induction same with
  | nil => simp
  | cons here rest ih =>
    obtain ⟨first, others⟩ := List.forall_mem_cons.mp each
    exact List.forall_mem_cons.mpr ⟨first _ here,ih others⟩

theorem matchedPartner {as : List α} {bs : List β} (same : List.Forall₂ R as bs) {a : α}
    (mem : a ∈ as) : ∃ b ∈ bs, R a b := by
  induction same with
  | nil => cases mem
  | cons here rest ih =>
    rcases List.mem_cons.mp mem with rfl | later
    · exact ⟨_,List.mem_cons_self,here⟩
    · obtain ⟨b, inside, related⟩ := ih later
      exact ⟨b,List.mem_cons_of_mem _ inside,related⟩

theorem matchedTrans {S : β → γ → Prop} {as : List α} {bs : List β} {cs : List γ}
    (first : List.Forall₂ R as bs) (second : List.Forall₂ S bs cs) :
    List.Forall₂ (fun a c => ∃ b, R a b ∧ S b c) as cs := by
  induction first generalizing cs with
  | nil =>
    cases second
    exact .nil
  | cons here rest ih =>
    cases second with
    | cons next others => exact .cons ⟨_,here,next⟩ (ih others)

end Matched

namespace Dump

/-! ### Distinct names -/

def shownName (t : Term) : String := t.name?.getD ""

def Renamed (before after : Term) : Prop :=
  ∃ name, after = { before with info := { before.info with name } }

theorem renamedSelf (t : Term) : Renamed t t := by
  obtain ⟨kind, info, children, type?⟩ := t
  exact ⟨info.name,rfl⟩

theorem separateRenamed (naming : Naming) (seen : List String) (ts : List Term) :
    List.Forall₂ Renamed ts (separate naming seen ts).1 := by
  induction ts generalizing seen with
  | nil => exact .nil
  | cons t ts ih =>
    rw [separate]
    dsimp only
    split
    · exact .cons ⟨_,rfl⟩ (ih _)
    · exact .cons (renamedSelf t) (ih _)

theorem separateDistinct (naming : Naming) {seen : List String} {ts : List Term}
    (distinct : (ts.map shownName).Nodup) (new : ∀ t ∈ ts, shownName t ∉ seen) :
    (separate naming seen ts).1 = ts := by
  induction ts generalizing seen with
  | nil => rfl
  | cons t ts ih =>
    obtain ⟨here, later⟩ := List.forall_mem_cons.mp new
    obtain ⟨only, distinct⟩ := List.nodup_cons.mp distinct
    have fresh : ¬ seen.contains (t.name?.getD "") = true := by
      rw [List.contains_iff_mem]
      exact here
    have rest : (separate naming (shownName t :: seen) ts).1 = ts := by
      refine ih distinct fun other mem => ?_
      rw [List.mem_cons, not_or]
      refine ⟨?_,later other mem⟩
      rintro same
      exact only (List.mem_map.mpr ⟨other,mem,same⟩)
    rw [separate]
    dsimp only
    rw [if_neg fresh]
    exact congrArg (t :: ·) rest

/-! ### The finished goal -/

def ordered (context : List Term) : List Term :=
  context.filter (!·.type.isProp) ++ context.filter (·.type.isProp)

theorem orderedPerm (context : List Term) : (ordered context).Perm context := by
  have parts := List.filter_append_perm (fun t : Term => !t.type.isProp) context
  simpa [ordered] using parts

def separated (naming : Naming) (raw : RawGoal) : List Term × List Renaming × List String :=
  separate naming [] (ordered raw.context)

def shown (naming : Naming) (raw : RawGoal) (t : Term) : Term :=
  naming.nameBound (separated naming raw).2.2 (renameAll (separated naming raw).2.1 t)

theorem finishEq (naming : Naming) (raw : RawGoal) : finish naming raw =
    { context := (separated naming raw).1.map fun t => { term := onType (shown naming raw) t }
      target := shown naming raw raw.target
      targetText := raw.targetText } := rfl

theorem renameAllNode (renamings : List Renaming) (t : Term) :
    (renameAll renamings t).kind = t.kind ∧ (renameAll renamings t).type? = t.type? := by
  induction renamings generalizing t with
  | nil => exact ⟨rfl,rfl⟩
  | cons r renamings ih =>
    obtain ⟨kind, info, children, type?⟩ := t
    exact ih (Term.renameLocal r.identifier r.name ⟨kind,info,children,type?⟩)

theorem shownIsProp (naming : Naming) (raw : RawGoal) (t : Term) :
    (shown naming raw t).isProp = t.isProp := by
  obtain ⟨kind, type⟩ := renameAllNode (separated naming raw).2.1 t
  have renamed : (renameAll (separated naming raw).2.1 t).isProp = t.isProp := by
    rw [Term.isProp, Term.isProp, Term.type, Term.type, kind, type]
  rw [← renamed]
  generalize found : renameAll (separated naming raw).2.1 t = t'
  obtain ⟨kind, info, children, type?⟩ := t'
  obtain ⟨_, _, _, same⟩ :=
    Naming.nameInNode naming (separated naming raw).2.2 [] [] kind info children type?
  rw [shown, found, Naming.nameBound, same]
  rfl

def entryOf (naming : Naming) (raw : RawGoal) (t : Term) : Entry :=
  { term := onType (shown naming raw) t }

theorem entryIsProp (naming : Naming) (raw : RawGoal) (t : Term) :
    (entryOf naming raw t).isProp = t.type.isProp := by
  obtain ⟨kind, info, children, type?⟩ := t
  cases type? with
  | none => rfl
  | some type => exact shownIsProp naming raw type

structure Finished (naming : Naming) (raw : RawGoal) (t : Term) (e : Entry) : Prop where
  entry : ∃ t', Renamed t t' ∧ e = entryOf naming raw t'
  named : (raw.context.map shownName).Nodup → e = entryOf naming raw t

theorem Finished.isProp {naming : Naming} {raw : RawGoal} {t : Term} {e : Entry}
    (finished : Finished naming raw t e) : e.isProp = t.type.isProp := by
  obtain ⟨t', ⟨name, rfl⟩, rfl⟩ := finished.entry
  rw [entryIsProp]
  rfl

theorem separatedMatched (naming : Naming) (raw : RawGoal) :
    List.Forall₂ (fun t t' => Renamed t t' ∧ ((raw.context.map shownName).Nodup → t' = t))
      (ordered raw.context) (separated naming raw).1 := by
  by_cases distinct : (raw.context.map shownName).Nodup
  · have all := orderedPerm raw.context
    have same := separateDistinct naming ((all.map shownName).nodup_iff.mpr distinct)
      (by simp : ∀ t ∈ ordered raw.context, shownName t ∉ [])
    rw [separated, same, List.forall₂_same]
    exact fun t _ => ⟨renamedSelf t,fun _ => rfl⟩
  · exact (separateRenamed naming [] (ordered raw.context)).imp fun _ _ renamed =>
      ⟨renamed,fun named => absurd named distinct⟩

theorem finishParts (naming : Naming) (raw : RawGoal) :
    List.Forall₂ (Finished naming raw) (raw.context.filter (!·.type.isProp))
        (finish naming raw).objects ∧
      List.Forall₂ (Finished naming raw) (raw.context.filter (·.type.isProp))
        (finish naming raw).propositions ∧
      (finish naming raw).context = (finish naming raw).objects ++ (finish naming raw).propositions := by
  have all : List.Forall₂ (Finished naming raw) (ordered raw.context) (finish naming raw).context := by
    rw [finishEq, List.forall₂_map_right_iff]
    exact (separatedMatched naming raw).imp fun t t' ⟨renamed, kept⟩ =>
      ⟨⟨t',renamed,rfl⟩,fun distinct => by rw [kept distinct]; rfl⟩
  obtain ⟨first, last, parts, one, two⟩ := matchedAppend all
  have objects : ∀ e ∈ first, e.isProp = false := matchedAll one fun t mem e finished => by
    rw [finished.isProp]
    simpa using (List.mem_filter.mp mem).2
  have propositions : ∀ e ∈ last, e.isProp = true := matchedAll two fun t mem e finished => by
    rw [finished.isProp]
    exact (List.mem_filter.mp mem).2
  have left : (finish naming raw).objects = first := by
    rw [Goal.objects, parts, List.filter_append, List.filter_eq_self.mpr (by simpa using objects),
      List.filter_eq_nil_iff.mpr (by simpa using propositions), List.append_nil]
  have right : (finish naming raw).propositions = last := by
    rw [Goal.propositions, parts, List.filter_append, List.filter_eq_self.mpr propositions,
      List.filter_eq_nil_iff.mpr (by simpa using objects), List.nil_append]
  rw [left, right]
  exact ⟨one,two,parts⟩

end Dump

end ProofTutor
