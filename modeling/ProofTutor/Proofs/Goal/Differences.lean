import Mathlib.Data.List.Nodup
import Mathlib.Data.List.Perm.Basic
import Mathlib.Data.Prod.Basic
import ProofTutor.Proofs.Goal.Changes
import ProofTutor.Proofs.Term.Bare

/-!
Differences account for every entry of both goals, each in one class and once, and the differences
the other way are the same ones turned around. This takes entries that have identifiers of their
own: an entry then has at most one partner in the other goal, and each finds the other.
-/
namespace ProofTutor.Goal

structure Identified (g : Goal) : Prop where
  named : ∀ e ∈ g.context, e.identifier?.isSome
  apart : (g.context.map Entry.identifier?).Nodup

instance (g : Goal) : Decidable g.Identified :=
  decidable_of_iff
    ((∀ e ∈ g.context, e.identifier?.isSome) ∧ (g.context.map Entry.identifier?).Nodup)
    ⟨fun ⟨named, apart⟩ => ⟨named,apart⟩,fun own => ⟨own.named,own.apart⟩⟩

def Knows (g : Goal) (e : Entry) : Prop := ∃ b ∈ g.context, b.identifier? = e.identifier?

def unchanged (g h : Goal) : List Entry :=
  h.context.filter fun e => g.context.any fun b =>
    b.identifier? == e.identifier? && b.type.alphaEq e.type

structure Covers (g h : Goal) (d : GoalDiff) : Prop where
  sorted : (d.added ++ d.modified.map Prod.snd ++ unchanged g h).Perm h.context
  once : (d.added ++ d.modified.map Prod.snd ++ unchanged g h).Nodup
  added : ∀ e, e ∈ d.added ↔ e ∈ h.context ∧ ¬ g.Knows e
  modified : ∀ b e, (b,e) ∈ d.modified ↔
    b ∈ g.context ∧ e ∈ h.context ∧ b.identifier? = e.identifier? ∧ b.type.alphaEq e.type = false
  removed : ∀ b, b ∈ d.removed ↔ b ∈ g.context ∧ ¬ h.Knows b
  removedOnce : d.removed.Nodup

structure Reverses (d r : GoalDiff) : Prop where
  added : r.added = d.removed
  removed : r.removed = d.added
  modified : r.modified.Perm (d.modified.map Prod.swap)
  targetChanged : r.targetChanged = d.targetChanged
  targets : r.targets = d.targets.map Prod.swap

/-! ### Partners -/

section Partners
variable {g h : Goal}

theorem sameIdentified {a b : Entry} (left : a.identifier?.isSome) (right : b.identifier?.isSome) :
    a.same b = true ↔ a.identifier? = b.identifier? := by
  obtain ⟨l, own⟩ := Option.isSome_iff_exists.mp left
  obtain ⟨r, other⟩ := Option.isSome_iff_exists.mp right
  simp [Entry.same, own, other]

theorem Identified.distinct (identified : g.Identified) : g.context.Nodup :=
  List.Nodup.of_map Entry.identifier? identified.apart

theorem Identified.known (identified : g.Identified) {e : Entry} (named : e.identifier?.isSome) :
    g.context.any (·.same e) = true ↔ g.Knows e := by
  rw [List.any_eq_true]
  exact exists_congr fun b => and_congr_right fun mem => sameIdentified (identified.named b mem) named

theorem Identified.unknown (identified : g.Identified) {e : Entry} (named : e.identifier?.isSome) :
    (g.context.find? (·.same e)).isNone = true ↔ ¬ g.Knows e := by
  rw [← identified.known named, Option.isNone_iff_eq_none, List.find?_eq_none, List.any_eq_true]
  simp

theorem Identified.partner (identified : g.Identified) {e b : Entry} (named : e.identifier?.isSome) :
    g.context.find? (·.same e) = some b ↔ b ∈ g.context ∧ b.identifier? = e.identifier? := by
  have inside {c : Entry} (found : g.context.find? (·.same e) = some c) :
      c ∈ g.context ∧ c.identifier? = e.identifier? := by
    have mem := List.mem_of_find?_eq_some found
    have same : c.same e = true := by simpa using List.find?_some found
    exact ⟨mem,(sameIdentified (identified.named c mem) named).mp same⟩
  refine ⟨inside,fun ⟨mem, same⟩ => ?_⟩
  cases found : g.context.find? (·.same e) with
  | none =>
    have apart := List.find?_eq_none.mp found b mem
    exact absurd ((sameIdentified (identified.named b mem) named).mpr same) apart
  | some c =>
    -- no two entries have the identifier
    obtain ⟨mem', same'⟩ := inside found
    rw [List.inj_on_of_nodup_map identified.apart mem' mem (same'.trans same.symm)]

theorem Identified.pairs (left : g.Identified) (right : h.Identified) (b e : Entry) :
    (b,e) ∈ (g.diff h).modified ↔ b ∈ g.context ∧ e ∈ h.context ∧
      b.identifier? = e.identifier? ∧ b.type.alphaEq e.type = false := by
  have listed : (b,e) ∈ (g.diff h).modified ↔ e ∈ h.context ∧
      g.context.find? (·.same e) = some b ∧ b.type.alphaEq e.type = false := by
    rw [diff, List.mem_filterMap]
    constructor
    · rintro ⟨e', mem, shown⟩
      split at shown
      · rename_i before found
        split at shown
        · cases shown
        · cases shown
          exact ⟨mem,found,Bool.eq_false_iff.mpr ‹_›⟩
      · cases shown
    · rintro ⟨mem, found, differs⟩
      exact ⟨e,mem,by simp [found, differs]⟩
  rw [listed]
  constructor
  · rintro ⟨mem, found, differs⟩
    obtain ⟨mem', same⟩ := (left.partner (right.named e mem)).mp found
    exact ⟨mem',mem,same,differs⟩
  · rintro ⟨mem', mem, same, differs⟩
    exact ⟨mem,(left.partner (right.named e mem)).mpr ⟨mem',same⟩,differs⟩

theorem Identified.unchangedEntries (left : g.Identified) (right : h.Identified) :
    unchanged g h = h.context.filter fun e =>
      (g.context.find? (·.same e)).any fun b => b.type.alphaEq e.type := by
  refine List.filter_congr fun e mem => ?_
  rw [Bool.eq_iff_iff, List.any_eq_true, Option.any_eq_true]
  refine exists_congr fun b => ?_
  rw [left.partner (right.named e mem), Bool.and_eq_true, beq_iff_eq, and_assoc]

theorem Identified.modifiedDistinct (right : h.Identified) (g : Goal) : (g.diff h).modified.Nodup := by
  refine List.Nodup.of_map Prod.snd ?_
  rw [modifiedEntries]
  exact right.distinct.filter _

end Partners

/-! ### Both goals -/

theorem removedAdded (g h : Goal) : (g.diff h).removed = (h.diff g).added := by
  refine List.filter_congr fun b _ => ?_
  rw [Bool.eq_iff_iff, Bool.not_eq_true', List.any_eq_false, Option.isNone_iff_eq_none,
    List.find?_eq_none]

section Both
variable {g h : Goal} (left : g.Identified) (right : h.Identified)
include left right

theorem classesSorted : ((g.diff h).added ++ (g.diff h).modified.map Prod.snd ++
    unchanged g h).Perm h.context := by
  have known : ((g.diff h).modified.map Prod.snd ++ unchanged g h).Perm
      (h.context.filter fun e => !(g.context.find? (·.same e)).isNone) := by
    refine .trans (.of_eq ?_) (List.filter_append_perm
      (fun e => (g.context.find? (·.same e)).any fun b => !b.type.alphaEq e.type) _)
    rw [modifiedEntries, left.unchangedEntries right, List.filter_filter, List.filter_filter]
    congr 1 <;> refine List.filter_congr fun e _ => ?_ <;>
      cases g.context.find? (·.same e) <;> simp
  rw [List.append_assoc]
  exact (known.append_left _).trans (List.filter_append_perm _ _)

theorem diffCovers : Covers g h (g.diff h) where
  sorted := classesSorted left right
  once := (classesSorted left right).nodup_iff.mpr right.distinct
  added e := by
    rw [diff, List.mem_filter]
    exact and_congr_right fun mem => left.unknown (right.named e mem)
  modified := left.pairs right
  removed b := by
    rw [removedAdded, diff, List.mem_filter]
    exact and_congr_right fun mem => right.unknown (left.named b mem)
  removedOnce := left.distinct.filter _

theorem modifiedReverses : (h.diff g).modified.Perm ((g.diff h).modified.map Prod.swap) := by
  have distinct := (right.modifiedDistinct g).map Prod.swap_injective
  refine (List.perm_ext_iff_of_nodup (left.modifiedDistinct h) distinct).mpr fun pair => ?_
  obtain ⟨e, b⟩ := pair
  rw [List.mem_map_of_involutive Prod.swap_swap, Prod.swap_prod_mk, right.pairs left, left.pairs right,
    Term.alphaEqFlip b.type, @eq_comm _ e.identifier?]
  exact and_left_comm

theorem diffReverses : Reverses (g.diff h) (h.diff g) where
  added := (removedAdded g h).symm
  removed := removedAdded h g
  modified := modifiedReverses left right
  targetChanged := by rw [diff, diff, Term.alphaEqFlip]
  targets := by
    rw [diff, diff, Term.alphaEqFlip h.target]
    dsimp only
    split <;> rfl

end Both

theorem Identified.diffSelf {g : Goal} (identified : g.Identified) : g.diff g = {} := by
  have own (e : Entry) (mem : e ∈ g.context) : g.context.find? (·.same e) = some e :=
    (identified.partner (identified.named e mem)).mpr ⟨mem,rfl⟩
  have equal (t : Term) : t.alphaEq t = true := Term.alphaEqSelf t [] (by simp)
  have added : (g.diff g).added = [] :=
    List.filter_eq_nil_iff.mpr fun e mem => by simp [own e mem]
  have removed : (g.diff g).removed = [] := (removedAdded g g).trans added
  have modified : (g.diff g).modified = [] :=
    List.filterMap_eq_nil_iff.mpr fun e mem => by simp [own e mem, equal]
  have targetChanged : (g.diff g).targetChanged = false := by simp [diff, equal]
  have targets : (g.diff g).targets = none := by simp [diff, equal]
  generalize g.diff g = d at added removed modified targetChanged targets
  cases d
  simp only at added removed modified targetChanged targets
  rw [added, removed, modified, targetChanged, targets]

/-- The differences of two goals whose entries have identifiers of their own list everything that
differs and nothing twice, and the other way they are turned around. -/
theorem differencesReverse {g h : Goal} (left : g.Identified) (right : h.Identified) :
    Covers g h (g.diff h) ∧ Reverses (g.diff h) (h.diff g) ∧ g.diff g = {} :=
  ⟨diffCovers left right,diffReverses left right,left.diffSelf⟩

def everyOf (number : Nat) (name : String) : Term :=
  Term.bind .universal (Term.boundVar name number Term.sort)
    (Term.binary .equals (Term.boundVar name number Term.sort) (Term.boundVar name number Term.sort))

def earlier : Goal :=
  { context :=
      [{ term := Term.localConstant "x" "0.x" Term.sort },
        { term := Term.localConstant "H" "0.H" (everyOf 0 "a") },
        { term := Term.localConstant "K" "0.K" Term.prop }]
    target := everyOf 0 "a" }

def later : Goal :=
  { context :=
      [{ term := Term.localConstant "H" "1.H" (everyOf 4 "b") },
        { term := Term.localConstant "K" "0.H" (everyOf 7 "c") },
        { term := Term.localConstant "x" "0.x" (Term.setOf Term.sort) }]
    target := Term.prop }

theorem differencesReverseRenamed : earlier.Identified ∧ later.Identified ∧
    (earlier.diff later).added.map Entry.identifier? = [some "1.H"] ∧
    (later.diff earlier).added.map Entry.identifier? = [some "0.K"] ∧
    (earlier.diff later).modified.map (fun pair => pair.2.identifier?) = [some "0.x"] ∧
    Covers earlier later (earlier.diff later) ∧
    Reverses (earlier.diff later) (later.diff earlier) ∧ earlier.diff earlier = {} := by
  refine ⟨by decide,by decide,by decide +kernel,by decide +kernel,by decide +kernel,?_⟩
  exact differencesReverse (by decide) (by decide)

end ProofTutor.Goal
