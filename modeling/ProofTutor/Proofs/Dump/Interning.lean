import Mathlib.Data.List.Basic
import ProofTutor.Dump.Decoder

/-!
Decoding node by node, and what every decoding keeps: interned terms are local constants under their
own identifiers, and numbers once given out are not given out again.
-/
namespace ProofTutor

@[elab_as_elim]
theorem Tree.nodeInduction {motive : Tree → Prop}
    (node : ∀ tag info children, (∀ t ∈ children, motive t) → motive ⟨tag,info,children⟩)
    (t : Tree) : motive t := by
  refine Tree.rec (motive_1 := motive) (motive_2 := fun ts => ∀ t ∈ ts, motive t) ?_ ?_ ?_ t
  · intro tag info children below
    exact node tag info children below
  · simp
  · intro t ts head tail
    exact List.forall_mem_cons.mpr ⟨head,tail⟩

@[elab_as_elim]
theorem Tree.kindInduction {motive : Tree → Prop}
    (unknown : ∀ tag pairs children, Kind.ofTag? tag = none → (∀ t ∈ children, motive t) →
      motive ⟨tag,pairs,children⟩)
    (constant : ∀ pairs children, (∀ t ∈ children, motive t) →
      motive ⟨Kind.localConstant.tag,pairs,children⟩)
    (binder : ∀ (kind : Kind) pairs typeTree variableTree bodyTree, kind.isBinder = true →
      motive typeTree → motive bodyTree → motive ⟨kind.tag,pairs,[typeTree,variableTree,bodyTree]⟩)
    (compound : ∀ (kind : Kind) pairs children, kind ≠ .localConstant →
      (kind.isBinder = false ∨ children.length ≠ 3) → (∀ t ∈ children, motive t) →
      motive ⟨kind.tag,pairs,children⟩)
    (tree : Tree) : motive tree := by
  induction tree using Tree.nodeInduction with
  | node tag pairs children ih =>
    cases known : Kind.ofTag? tag with
    | none => exact unknown tag pairs children known ih
    | some kind =>
      obtain rfl := Kind.tagFound known
      by_cases isLocal : kind = .localConstant
      · subst isLocal
        exact constant pairs children ih
      · by_cases binds : kind.isBinder = true ∧ children.length = 3
        · obtain ⟨typeTree, variableTree, bodyTree, rfl⟩ := List.length_eq_three.mp binds.2
          exact binder kind pairs typeTree variableTree bodyTree binds.1 (ih typeTree (by simp))
            (ih bodyTree (by simp))
        · have free : kind.isBinder = false ∨ children.length ≠ 3 := by
            rwa [← Bool.not_eq_true, ← Decidable.not_and_iff_not_or_not]
          exact compound kind pairs children isLocal free ih

def Warning.skips : Warning → Bool
  | .unknownTag _ | .childCount _ _ _ => false
  | .namelessEntry _ | .malformedTarget _ | .malformedEntry _ => true

namespace Decoder

/-! ### Nodes -/

theorem buildUnknown {tag : String} (unknown : Kind.ofTag? tag = none) (scope : List Variable)
    (pairs : List (String × String)) (children : List Tree) (d : Decoder) :
    build scope ⟨tag,pairs,children⟩ d =
      ({ kind := .rawCode, info := .named tag
         children := (buildAll scope children (d.warn (.unknownTag tag))).1 },
        (buildAll scope children (d.warn (.unknownTag tag))).2) := by
  rw [build, unknown]

theorem buildConstant (scope : List Variable) (pairs : List (String × String))
    (children : List Tree) (d : Decoder) :
    build scope ⟨Kind.localConstant.tag,pairs,children⟩ d =
      match d.known? scope (Info.ofPairs pairs), children with
      | some t, _ => (t,d)
      | none, [] => ({ kind := .localConstant, info := Info.ofPairs pairs },d)
      | none, typeTree :: _ =>
        let t : Term :=
          { kind := .localConstant, info := Info.ofPairs pairs
            type? := some (build scope typeTree d).1 }
        (t,(build scope typeTree d).2.intern t) := by
  have counted : d.checkCount Kind.localConstant.tag .localConstant children.length = d := rfl
  rw [build, Kind.tagRead]
  dsimp only
  rw [counted, if_pos (by rfl)]
  cases d.known? scope (Info.ofPairs pairs) with
  | some t => rfl
  | none =>
    cases children with
    | nil => rfl
    | cons typeTree others => rfl

theorem buildBinder {kind : Kind} (binds : kind.isBinder = true) {scope : List Variable}
    {typeTree variableTree bodyTree : Tree} {type body : Term} {d typed after : Decoder}
    (first : build scope typeTree (d.checkCount kind.tag kind 3) = (type,typed))
    (second : build (enter (Info.ofPairs variableTree.info) typed.nextNumber type scope) bodyTree
      { typed with nextNumber := typed.nextNumber + 1 } = (body,after))
    (pairs : List (String × String)) :
    build scope ⟨kind.tag,pairs,[typeTree,variableTree,bodyTree]⟩ d =
      ({ kind, info := Info.ofPairs pairs
         children :=
          [type,declared (Info.ofPairs variableTree.info) typed.nextNumber type,body]
         type? := binderType? kind type body },after) := by
  have other : ¬ (kind == .localConstant) = true := by
    intro same
    rw [eq_of_beq same] at binds
    cases binds
  rw [build, Kind.tagRead]
  dsimp only
  rw [if_neg other, binds]
  obtain rfl : (build scope typeTree (d.checkCount kind.tag kind 3)).1 = type :=
    congrArg Prod.fst first
  obtain rfl : (build scope typeTree (d.checkCount kind.tag kind 3)).2 = typed :=
    congrArg Prod.snd first
  exact congrArg (fun built => (({
    kind, info := Info.ofPairs pairs
    children := [_,declared (Info.ofPairs variableTree.info) _ _,built.1]
    type? := binderType? kind _ built.1 } : Term),built.2)) second

theorem buildCompound {kind : Kind} {children : List Tree} (other : kind ≠ .localConstant)
    (free : kind.isBinder = false ∨ children.length ≠ 3) {scope : List Variable} {ts : List Term}
    {d after : Decoder}
    (all : buildAll scope children (d.checkCount kind.tag kind children.length) = (ts,after))
    (pairs : List (String × String)) :
    build scope ⟨kind.tag,pairs,children⟩ d = (compound kind (Info.ofPairs pairs) ts,after) := by
  rw [build, Kind.tagRead]
  dsimp only
  rw [if_neg (by simpa using other)]
  split
  · simp_all
  · rw [all]

/-! ### Steps -/

structure Steps (R : Decoder → Decoder → Prop) : Prop where
  refl : ∀ d, R d d
  trans : ∀ {d e f}, R d e → R e f → R d f
  warn : ∀ d {w : Warning}, w.skips = false → R d (d.warn w)
  intern : ∀ d {t : Term}, t.kind = .localConstant → t.children = [] → R d (d.intern t)
  number : ∀ d : Decoder, R d { d with nextNumber := d.nextNumber + 1 }

namespace Steps

variable {R : Decoder → Decoder → Prop} (steps : Steps R)
include steps

theorem count (d : Decoder) (tag : String) (kind : Kind) (found : Nat) :
    R d (d.checkCount tag kind found) := by
  rw [checkCount]
  split
  · split
    · exact steps.refl d
    · exact steps.warn d rfl
  · exact steps.refl d

theorem all {ts : List Tree} (each : ∀ t ∈ ts, ∀ scope d, R d (build scope t d).2)
    (scope : List Variable) (d : Decoder) : R d (buildAll scope ts d).2 := by
  induction ts generalizing d with
  | nil =>
    rw [buildAll]
    exact steps.refl d
  | cons t ts ih =>
    obtain ⟨first, rest⟩ := List.forall_mem_cons.mp each
    rw [buildAll]
    exact steps.trans (first scope d) (ih rest _)

theorem build (tree : Tree) (scope : List Variable) (d : Decoder) :
    R d (build scope tree d).2 := by
  induction tree using Tree.kindInduction generalizing scope d with
  | unknown tag pairs children known ih =>
    rw [buildUnknown known]
    exact steps.trans (steps.warn d rfl) (steps.all ih scope _)
  | constant pairs children ih =>
    rw [buildConstant]
    split
    · exact steps.refl d
    · exact steps.refl d
    · exact steps.trans (ih _ List.mem_cons_self scope d) (steps.intern _ rfl rfl)
  | binder kind pairs typeTree variableTree bodyTree binds typed inside =>
    rw [buildBinder binds rfl rfl]
    exact steps.trans (steps.count d kind.tag kind 3)
      (steps.trans (typed _ _) (steps.trans (steps.number _) (inside _ _)))
  | compound kind pairs children other free ih =>
    rw [buildCompound other free rfl]
    exact steps.trans (steps.count d kind.tag kind children.length) (steps.all ih scope _)

end Steps

/-! ### What comes after -/

def Interns (d : Decoder) : Prop :=
  ∀ entry ∈ d.interned, entry.2.kind = .localConstant ∧ entry.2.identifier? = some entry.1 ∧
    entry.2.children = []

structure Follows (before after : Decoder) : Prop where
  interns : before.Interns → after.Interns
  next : before.nextNumber ≤ after.nextNumber
  remarks : ∀ w ∈ after.warnings, w ∈ before.warnings ∨ w.skips = false

theorem followsSelf (d : Decoder) : Follows d d := ⟨id,Nat.le_refl _,fun _ => .inl⟩

theorem Follows.trans {first second third : Decoder} (one : Follows first second)
    (two : Follows second third) : Follows first third where
  interns := two.interns ∘ one.interns
  next := Nat.le_trans one.next two.next
  remarks := fun w mem => (two.remarks w mem).elim (one.remarks w) .inr

theorem warnFollows (d : Decoder) {w : Warning} (kept : w.skips = false) : Follows d (d.warn w) := by
  refine ⟨id,Nat.le_refl _,?_⟩
  intro other mem
  rcases List.mem_append.mp mem with old | new
  · exact .inl old
  · exact .inr (List.mem_singleton.mp new ▸ kept)

theorem internFollows (d : Decoder) {t : Term} (constant : t.kind = .localConstant)
    (childless : t.children = []) : Follows d (d.intern t) := by
  rw [intern]
  split
  · rename_i identifier own
    refine ⟨?_,Nat.le_refl _,fun _ => .inl⟩
    intro before entry mem
    rcases List.mem_cons.mp mem with rfl | old
    · exact ⟨constant,own,childless⟩
    · exact before entry old
  · exact followsSelf d

theorem numberFollows (d : Decoder) : Follows d { d with nextNumber := d.nextNumber + 1 } :=
  ⟨id,Nat.le_succ _,fun _ => .inl⟩

theorem followsSteps : Steps Follows :=
  ⟨followsSelf,Follows.trans,warnFollows,internFollows,numberFollows⟩

theorem checkCountFollows (d : Decoder) (tag : String) (kind : Kind) (found : Nat) :
    Follows d (d.checkCount tag kind found) :=
  followsSteps.count d tag kind found

theorem buildFollows (tree : Tree) (scope : List Variable) (d : Decoder) :
    Follows d (build scope tree d).2 :=
  followsSteps.build tree scope d

theorem buildAllFollows {ts : List Tree}
    (each : ∀ t ∈ ts, ∀ scope d, Follows d (build scope t d).2) (scope : List Variable)
    (d : Decoder) : Follows d (buildAll scope ts d).2 :=
  followsSteps.all each scope d

end Decoder

end ProofTutor
