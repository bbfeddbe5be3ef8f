import ProofTutor.Proofs.Tactic.Numbering
import ProofTutor.Proofs.Tactic.Structure

/-! How a deterministic prover runs a tree of tactics. A run leaves what the probes printed, also
those inside alternatives that were abandoned, and the state it ends in unless it fails. -/
namespace ProofTutor

structure Ran (σ : Type) where
  printed : List Tactic.Probe
  state? : Option σ
  deriving DecidableEq

namespace Ran
variable {σ : Type}

def andThen (r : Ran σ) (next : σ → Ran σ) : Ran σ :=
  match r.state? with
  | some s => ⟨r.printed ++ (next s).printed,(next s).state?⟩
  | none => r

def orElse (r other : Ran σ) : Ran σ :=
  match r.state? with
  | some _ => r
  | none => ⟨r.printed ++ other.printed,other.state?⟩

def within (enter : σ → Option σ) (leave : σ → σ → Option σ) (child : σ → Ran σ) (s : σ) : Ran σ :=
  andThen ⟨[],enter s⟩ fun inner => (child inner).andThen fun after => ⟨[],leave s after⟩

theorem andThenSome {r : Ran σ} {next : σ → Ran σ} {printed s} :
    r.andThen next = ⟨printed,some s⟩ ↔
      ∃ before middle after, r = ⟨before,some middle⟩ ∧ next middle = ⟨after,some s⟩ ∧
        printed = before ++ after := by
  obtain ⟨before, middle?⟩ := r
  cases middle? with
  | none => simp [andThen]
  | some middle =>
    constructor
    · intro ran
      obtain ⟨printedSame, stateSame⟩ := Ran.mk.inj ran
      exact ⟨before,middle,(next middle).printed,rfl,by rw [← stateSame],printedSame.symm⟩
    · rintro ⟨_, _, after, same, ran, rfl⟩
      cases same
      simp [andThen, ran]

theorem orElseSome {r other : Ran σ} {printed s} :
    r.orElse other = ⟨printed,some s⟩ ↔ r = ⟨printed,some s⟩ ∨
      ∃ before after, r = ⟨before,none⟩ ∧ other = ⟨after,some s⟩ ∧ printed = before ++ after := by
  obtain ⟨before, state?⟩ := r
  cases state? with
  | some own => simp [orElse]
  | none =>
    constructor
    · intro ran
      obtain ⟨printedSame, stateSame⟩ := Ran.mk.inj ran
      exact .inr ⟨before,other.printed,rfl,by rw [← stateSame],printedSame.symm⟩
    · rintro (same | ⟨_, after, same, ran, rfl⟩)
      · cases same
      · cases same
        simp [orElse, ran]

theorem printedAndThen {r : Ran σ} {next : σ → Ran σ} {p : Tactic.Probe}
    (mem : p ∈ (r.andThen next).printed) : p ∈ r.printed ∨ ∃ s, p ∈ (next s).printed := by
  obtain ⟨before, middle?⟩ := r
  cases middle? with
  | none => exact .inl mem
  | some middle => exact (List.mem_append.mp mem).imp_right fun later => ⟨middle,later⟩

theorem printedOrElse {r other : Ran σ} {p : Tactic.Probe}
    (mem : p ∈ (r.orElse other).printed) : p ∈ r.printed ∨ p ∈ other.printed := by
  obtain ⟨before, state?⟩ := r
  cases state? with
  | none => exact List.mem_append.mp mem
  | some own => exact .inl mem

end Ran

/-- A deterministic prover: an atomic tactic is a partial function on its states, and a wrapper
makes a run from the run of its child. -/
structure Engine (σ : Type) where
  atom : String → σ → Option σ
  around : Wrapper → (σ → Ran σ) → σ → Ran σ

namespace Engine
variable {σ : Type}

def RunsOnce (e : Engine σ) (w : Wrapper) : Prop :=
  ∃ enter leave, ∀ child s, e.around w child s = Ran.within enter leave child s

structure Lawful (e : Engine σ) : Prop where
  check : ∀ s s', e.atom Vocabulary.noMetaVars s = some s' → s' = s
  probe : ∀ node index s, e.atom (Vocabulary.probe node index) s = some s
  solve1 : e.RunsOnce .solve1
  focus : e.RunsOnce .focus

end Engine

namespace Tactic
variable {σ : Type}

mutual

def run (e : Engine σ) : Tactic → σ → Ran σ
  | .atomic text _, s => ⟨(Vocabulary.probeOf? text).toList,e.atom text s⟩
  | .sequence children _, s => runAll e children s
  | .choice _ first rest _, s => (run e first s).orElse (runAny e rest s)
  | .wrap wrapper child _, s => e.around wrapper (fun s => run e child s) s

def runAll (e : Engine σ) : List Tactic → σ → Ran σ
  | [], s => ⟨[],some s⟩
  | t :: ts, s => (run e t s).andThen fun s => runAll e ts s

def runAny (e : Engine σ) : List Tactic → σ → Ran σ
  | [], _ => ⟨[],none⟩
  | t :: ts, s => (run e t s).orElse (runAny e ts s)

end

theorem runInheriting (e : Engine σ) (t : Tactic) (m : Messages) (s : σ) :
    (t.inheriting m).run e s = t.run e s := by
  cases t <;> rfl

theorem runAllPrints {e : Engine σ} (ts : List Tactic) {P : Probe → Prop}
    (each : ∀ t ∈ ts, ∀ s, ∀ p ∈ (t.run e s).printed, P p) (s : σ) :
    ∀ p ∈ (runAll e ts s).printed, P p := by
  induction ts generalizing s with
  | nil => simp [runAll]
  | cons t ts ih =>
    obtain ⟨head, tail⟩ := List.forall_mem_cons.mp each
    intro p mem
    rcases Ran.printedAndThen mem with here | ⟨middle, later⟩
    · exact head s p here
    · exact ih tail middle p later

theorem runAnyPrints {e : Engine σ} (ts : List Tactic) {P : Probe → Prop}
    (each : ∀ t ∈ ts, ∀ s, ∀ p ∈ (t.run e s).printed, P p) (s : σ) :
    ∀ p ∈ (runAny e ts s).printed, P p := by
  induction ts with
  | nil => simp [runAny]
  | cons t ts ih =>
    obtain ⟨head, tail⟩ := List.forall_mem_cons.mp each
    intro p mem
    rcases Ran.printedOrElse mem with here | later
    · exact head s p here
    · exact ih tail p later

def parts : Tactic → List Tactic
  | .atomic _ _ => []
  | .sequence children _ => children
  | .choice _ first rest _ => first :: rest
  | .wrap _ child _ => [child]

structure Linear (t : Tactic) : Prop where
  once : ∀ w ∈ t.wrappers, w = .solve1 ∨ w = .focus
  unprobed : ∀ text ∈ t.atoms, Vocabulary.probeOf? text = none

theorem Linear.part {t u : Tactic} (linear : t.Linear) (mem : u ∈ t.parts) : u.Linear := by
  have inside : (∀ w ∈ u.wrappers, w ∈ t.wrappers) ∧ ∀ text ∈ u.atoms, text ∈ t.atoms := by
    cases t with
    | atomic text m => simp [parts] at mem
    | sequence children m =>
      simp only [wrappers, wrappersOfFlat, atoms, atomsOfFlat]
      exact ⟨fun _ here => List.mem_flatMap.mpr ⟨u,mem,here⟩,
        fun _ here => List.mem_flatMap.mpr ⟨u,mem,here⟩⟩
    | choice number? first rest m =>
      simp only [wrappers, wrappersOfFlat, atoms, atomsOfFlat, ← List.flatMap_cons]
      exact ⟨fun _ here => List.mem_flatMap.mpr ⟨u,mem,here⟩,
        fun _ here => List.mem_flatMap.mpr ⟨u,mem,here⟩⟩
    | wrap wrapper child m =>
      cases List.mem_singleton.mp mem
      exact ⟨fun _ here => List.mem_cons_of_mem _ here,fun _ here => here⟩
  exact ⟨fun w here => linear.once w (inside.1 w here),
    fun text here => linear.unprobed text (inside.2 text here)⟩

theorem Linear.wrapper {wrapper : Wrapper} {child : Tactic} {m : Messages}
    (linear : (Tactic.wrap wrapper child m).Linear) {e : Engine σ} (law : e.Lawful) :
    e.RunsOnce wrapper := by
  rcases linear.once wrapper List.mem_cons_self with rfl | rfl
  · exact law.solve1
  · exact law.focus

mutual

def withoutChecks : Tactic → Tactic
  | .atomic text m => if text = Vocabulary.noMetaVars then .sequence [] m else .atomic text m
  | .sequence children m => .sequence (withoutChecksAll children) m
  | .choice number? first rest m =>
    .choice number? (withoutChecks first) (withoutChecksAll rest) m
  | .wrap wrapper child m => .wrap wrapper (withoutChecks child) m

def withoutChecksAll : List Tactic → List Tactic
  | [] => []
  | t :: ts => withoutChecks t :: withoutChecksAll ts

end

theorem withoutChecksAllMap (ts : List Tactic) : withoutChecksAll ts = ts.map withoutChecks := by
  induction ts with
  | nil => rfl
  | cons t ts ih => simp [withoutChecksAll, ih]

theorem withoutChecksInheriting (t : Tactic) (m : Messages) :
    (t.inheriting m).withoutChecks = t.withoutChecks.inheriting m := by
  cases t with
  | atomic text own =>
    simp only [inheriting, withMessages, withoutChecks]
    split <;> rfl
  | sequence children own => rfl
  | choice number? first rest own => rfl
  | wrap wrapper child own => rfl

theorem sourceWithoutChecks (t : Tactic) : t.withoutChecks.source false = t.source true := by
  induction t using treeInduction with
  | atomic text m =>
    by_cases check : text = Vocabulary.noMetaVars <;>
      simp [withoutChecks, source, sources, Text.join, check]
  | sequence children m ih =>
    have same := List.map_congr_left ih
    simp only [withoutChecks, source, sourcesMap, withoutChecksAllMap, List.map_map,
      Function.comp_def, same]
  | choice number? first rest m ih =>
    obtain ⟨head, tail⟩ := List.forall_mem_cons.mp ih
    have same := List.map_congr_left tail
    simp only [withoutChecks, source, sourcesMap, withoutChecksAllMap, List.map_map,
      Function.comp_def, head, same]
  | wrap wrapper child m ih => simp only [withoutChecks, source, ih]

end Tactic

end ProofTutor
