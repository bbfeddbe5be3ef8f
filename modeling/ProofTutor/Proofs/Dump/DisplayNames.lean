import ProofTutor.Proofs.Dump.Finishing
import ProofTutor.Proofs.Dump.Formation

/-!
Renamed entries. The names of the entries of a finished goal are distinct, and the renamings give a
local constant the name of the entry with its identifier, so a goal is displayed as it was formed.
-/
namespace ProofTutor

/-! ### Renamed local constants -/

theorem Term.Formed.imp {stray : Prop} {constant constant' : Info → Prop} {above : List Nat} {t : Term}
    (formed : Formed stray constant above t) (weaker : ∀ info, constant info → constant' info) :
    Formed stray constant' above t := by
  induction formed with
  | binder binds number fresh _ _ typed inside => exact .binder binds number fresh typed inside
  | node free own bound _ ih => exact .node free (fun same => weaker _ (own same)) bound ih

namespace Dump

variable {stray : Prop} {constant constant' : Info → Prop}

def relabel (info : Info) (r : Renaming) : Info :=
  if info.identifier == some r.identifier then { info with name := some r.name } else info

def relabelAll (renamings : List Renaming) (info : Info) : Info :=
  renamings.foldl relabel info

theorem relabelIdentifier (info : Info) (r : Renaming) :
    (relabel info r).identifier = info.identifier := by
  rw [relabel]
  split <;> rfl

theorem relabelAllIdentifier (renamings : List Renaming) (info : Info) :
    (relabelAll renamings info).identifier = info.identifier := by
  induction renamings generalizing info with
  | nil => rfl
  | cons r renamings ih => exact (ih (relabel info r)).trans (relabelIdentifier info r)

theorem relabelAllOther {renamings : List Renaming} {info : Info}
    (other : ∀ r ∈ renamings, info.identifier ≠ some r.identifier) :
    relabelAll renamings info = info := by
  induction renamings with
  | nil => rfl
  | cons r renamings ih =>
    obtain ⟨here, later⟩ := List.forall_mem_cons.mp other
    have kept : relabel info r = info := if_neg (by simpa using here)
    rw [relabelAll, List.foldl_cons, kept]
    exact ih later

theorem formedRenamed (r : Renaming) {above : List Nat} {t : Term}
    (formed : Term.Formed stray constant above t)
    (kept : ∀ info, constant info → constant' (relabel info r)) :
    Term.Formed stray constant' above (t.renameLocal r.identifier r.name) := by
  induction formed with
  | @binder above kind info own type body ownType? type? n binds number fresh _ _ typed inside =>
    have ownVariable : Term.renameLocal r.identifier r.name ⟨.boundVar,own,[],ownType?⟩ =
        ⟨.boundVar,own,[],ownType?⟩ := rfl
    rw [Term.renameLocal, Term.renameLocalInMap, List.map_cons, List.map_cons, ownVariable]
    exact .binder binds number fresh typed inside
  | @node above kind info children type? free own bound below ih =>
    rw [Term.renameLocal, Term.renameLocalInMap]
    refine .node (by simpa using free) ?_ ?_ ?_
    · rintro rfl
      exact kept info (own rfl)
    · rintro rfl
      exact bound rfl
    · intro t mem
      obtain ⟨child, inside, rfl⟩ := List.mem_map.mp mem
      exact ih child inside

theorem formedRenamedAll (renamings : List Renaming) {t : Term}
    (formed : Term.Formed stray constant [] t)
    (kept : ∀ info, constant info → constant' (relabelAll renamings info)) :
    Term.Formed stray constant' [] (renameAll renamings t) := by
  induction renamings generalizing t constant with
  | nil => exact formed.imp kept
  | cons r renamings ih =>
    have first : Term.Formed stray (fun info => ∃ before, constant before ∧ info = relabel before r) []
        (t.renameLocal r.identifier r.name) :=
      formedRenamed r formed fun info own => ⟨info,own,rfl⟩
    refine ih first ?_
    rintro _ ⟨before, own, rfl⟩
    exact kept before own

/-! ### Names of entries -/

theorem separateNames (naming : Naming) {seen : List String} (distinct : seen.Nodup) (ts : List Term) :
    (separate naming seen ts).2.2.Nodup ∧ (separate naming seen ts).2.2 =
      ((separate naming seen ts).1.map shownName).reverse ++ seen := by
  induction ts generalizing seen with
  | nil => exact ⟨distinct,rfl⟩
  | cons t ts ih =>
    have next {name : String} (new : name ∉ seen) := ih (List.nodup_cons.mpr ⟨new,distinct⟩)
    rw [separate]
    dsimp only
    split
    · obtain ⟨nodup, names⟩ := next (Naming.freshNameNew (t.name?.getD "") seen naming.allowDoublePrime)
      refine ⟨nodup,names.trans ?_⟩
      simp [shownName, Term.name?]
    · rename_i fresh
      obtain ⟨nodup, names⟩ := next (by simpa using fresh)
      refine ⟨nodup,names.trans ?_⟩
      simp [shownName]

structure Relabelled (renamings : List Renaming) (t t' : Term) : Prop where
  identifier : t'.identifier? = t.identifier?
  name : ∀ info : Info, info.identifier = t.identifier? → info.name = t.name? → t.name?.isSome →
    (relabelAll renamings info).name = some (shownName t')

theorem Relabelled.other {renamings : List Renaming} {t t' : Term}
    (relabelled : Relabelled renamings t t') {r : Renaming}
    (other : t.identifier? ≠ some r.identifier) : Relabelled (r :: renamings) t t' where
  identifier := relabelled.identifier
  name := by
    intro info identifier name shown
    have kept : relabel info r = info := if_neg (by simpa [identifier] using other)
    rw [relabelAll, List.foldl_cons, kept]
    exact relabelled.name info identifier name shown

theorem separateRelabels (naming : Naming) (seen : List String) {ts : List Term}
    (identified : ∀ t ∈ ts, t.identifier?.isSome) (distinct : (ts.map (·.identifier?)).Nodup) :
    (∀ r ∈ (separate naming seen ts).2.1, some r.identifier ∈ ts.map (·.identifier?)) ∧
      List.Forall₂ (Relabelled (separate naming seen ts).2.1) ts (separate naming seen ts).1 := by
  induction ts generalizing seen with
  | nil => exact ⟨by simp [separate],.nil⟩
  | cons t ts ih =>
    obtain ⟨own, others⟩ := List.forall_mem_cons.mp identified
    obtain ⟨only, distinct⟩ := List.nodup_cons.mp distinct
    change t.identifier? ∉ ts.map (·.identifier?) at only
    obtain ⟨identifier, named⟩ := Option.isSome_iff_exists.mp own
    rw [separate]
    dsimp only
    split
    · generalize Naming.freshName (t.name?.getD "") seen naming.allowDoublePrime = fresh
      obtain ⟨listed, matched⟩ := ih (fresh :: seen) others distinct
      have untouched : ∀ r ∈ (separate naming (fresh :: seen) ts).2.1,
          t.identifier? ≠ some r.identifier := by
        intro r mem same
        rw [same] at only
        exact only (listed r mem)
      -- the other entries have other identifiers, so the renamings of one leave the others alone
      have apart : ∀ other ∈ ts, other.identifier? ≠ some identifier := by
        intro other mem same
        exact only (List.mem_map.mpr ⟨other,mem,same.trans named.symm⟩)
      rw [named, Option.map_some, Option.toList_some, List.singleton_append]
      refine ⟨List.forall_mem_cons.mpr ⟨by simp [named],?_⟩,.cons ⟨rfl,?_⟩ ?_⟩
      · exact fun r mem => List.mem_cons_of_mem _ (listed r mem)
      · intro info own _ _
        have renamed : relabel info ⟨identifier,fresh⟩ = { info with name := some fresh } :=
          if_pos (by simp [own, named])
        rw [relabelAll, List.foldl_cons, renamed, ← relabelAll, relabelAllOther]
        · rfl
        · intro r mem
          have other := untouched r mem
          rwa [← own] at other
      · exact ((List.forall₂_and_left _ _).mpr ⟨apart,matched⟩).imp fun _ _ both => both.2.other both.1
    · obtain ⟨listed, matched⟩ := ih (t.name?.getD "" :: seen) others distinct
      refine ⟨fun r mem => List.mem_cons_of_mem _ (listed r mem),.cons ⟨rfl,?_⟩ matched⟩
      intro info own name displayed
      have untouched : relabelAll (separate naming (t.name?.getD "" :: seen) ts).2.1 info = info := by
        apply relabelAllOther
        intro r mem same
        rw [← own, same] at only
        exact only (listed r mem)
      obtain ⟨shown, here⟩ := Option.isSome_iff_exists.mp displayed
      rw [untouched, name, shownName, here]
      rfl

/-! ### Finished goals -/

theorem finishNames (naming : Naming) (raw : RawGoal) :
    (finish naming raw).names = (separated naming raw).1.map shownName := by
  rw [Goal.names, finishEq, List.map_map]
  rfl

theorem namesDistinct (naming : Naming) (raw : RawGoal) : (finish naming raw).names.Nodup ∧
    (finish naming raw).names ⊆ (separated naming raw).2.2 := by
  obtain ⟨nodup, names⟩ := separateNames naming List.nodup_nil (ordered raw.context)
  rw [List.append_nil] at names
  rw [finishNames]
  refine ⟨?_,fun name mem => ?_⟩
  · rw [names, List.nodup_reverse] at nodup
    exact nodup
  · rw [separated, names, List.mem_reverse]
    exact mem

end Dump

def Goal.terms (g : Goal) : List Term :=
  g.target :: g.context.map (·.type)

namespace Dump

variable {stray : Prop} {constant constant' : Info → Prop}

structure FormedGoal (stray : Prop) (constant : Info → Prop) (raw : RawGoal) : Prop where
  target : Term.Formed stray constant [] raw.target
  types : ∀ t ∈ raw.context, ∃ type, t.type? = some type ∧ Term.Formed stray constant [] type

theorem entryTypes (naming : Naming) (raw : RawGoal)
    (types : ∀ t ∈ raw.context, ∃ type, t.type? = some type ∧ Term.Formed stray constant [] type) :
    ∀ e ∈ (finish naming raw).context, ∃ type, Term.Formed stray constant [] type ∧
      e.type = shown naming raw type := by
  obtain ⟨objects, propositions, parts⟩ := finishParts naming raw
  have own : ∀ t ∈ raw.context, ∀ e, Finished naming raw t e →
      ∃ type, Term.Formed stray constant [] type ∧ e.type = shown naming raw type := by
    intro t mem e finished
    obtain ⟨t', ⟨name, rfl⟩, rfl⟩ := finished.entry
    obtain ⟨type, typed, formed⟩ := types t mem
    exact ⟨type,formed,by simp [entryOf, Entry.type, onType, Term.type, typed]⟩
  rw [parts]
  refine List.forall_mem_append.mpr ⟨matchedAll objects ?_,matchedAll propositions ?_⟩
  · exact fun t mem => own t (List.mem_of_mem_filter mem)
  · exact fun t mem => own t (List.mem_of_mem_filter mem)

theorem goalDisplayed {naming : Naming} {raw : RawGoal} (formed : FormedGoal stray constant raw)
    (kept : ∀ info, constant info → constant' (relabelAll (separated naming raw).2.1 info)) :
    ∀ t ∈ (finish naming raw).terms,
      Term.Displayed (finish naming raw).names stray constant' [] t := by
  have each {t : Term} (own : Term.Formed stray constant [] t) :
      Term.Displayed (finish naming raw).names stray constant' [] (shown naming raw t) :=
    Naming.nameBoundDisplayed naming (namesDistinct naming raw).2 (formedRenamedAll _ own kept)
  refine List.forall_mem_cons.mpr ⟨each formed.target,?_⟩
  intro t mem
  obtain ⟨e, inside, rfl⟩ := List.mem_map.mp mem
  obtain ⟨type, own, same⟩ := entryTypes naming raw formed.types e inside
  rw [same]
  exact each own

end Dump

end ProofTutor
