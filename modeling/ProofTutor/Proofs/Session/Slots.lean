import Mathlib.Data.List.Basic
import Mathlib.Data.List.Nodup
import ProofTutor.Proofs.Session.Replies

/-!
The slots of a session. A call takes a slot together with its number and its place on the table, and
however its submission returns, it gives back both: no slot is lost, whatever happens in whatever order.
-/
namespace ProofTutor

def ProverSettings.capacity (settings : ProverSettings) : Nat := max settings.slots 1

def Call.holds (c : Call) : Bool := c.stage.number?.isSome

namespace Desk

variable {d : Desk}

theorem Sound.leave (sound : d.Sound) {id : Nat} {c c' : Call} (found : d.calls[id]? = some c)
    (returned : c'.stage.submits = false) : Desk.Sound { d with
      calls := d.calls.set id c'
      waiters := d.waiters.filter (·.2 ≠ id) } := by
  have held : ∀ {i n : Nat} {b : Call}, (d.calls.set id c')[i]? = some b → b.stage.number? = some n →
      d.calls[i]? = some b := by
    intro i n b there number
    rw [Session.setFound found] at there
    split at there
    · cases there
      cases (Stage.returnedNumber returned).symm.trans number
    · exact there
  refine
    { owned := ?owned
      below := ?below
      apart := ?apart
      fresh := ?fresh
      unwritten := ?unwritten
      sent := sound.sent
      once := sound.once }
  case owned =>
    intro n i mem
    obtain ⟨before, other⟩ := List.mem_filter.mp mem
    have apart : i ≠ id := by simpa using other
    obtain ⟨b, there, facts⟩ := sound.owned before
    exact ⟨b,by rw [Session.setFound found, if_neg apart, there],facts⟩
  case below =>
    intro i n b there number
    exact sound.below (held there number) number
  case apart =>
    intro i i' n b b' there there' number number'
    exact sound.apart (held there number) (held there' number') number number'
  case fresh =>
    intro i b there queued
    rw [Session.setFound found] at there
    split at there
    · cases there
      rw [queued] at returned
      cases returned
    · exact sound.fresh there queued
  case unwritten =>
    intro request i b mem there numbered
    exact sound.unwritten mem (held there (by rw [numbered]; rfl)) numbered

end Desk

namespace Session

variable {s : Session} {id n : Nat} {c : Call}

/-! ### What can happen -/

inductive Happening where
  | move (m : Move)
  | unsent (call : Nat) (failure : ProverFailure)

def happen (s : Session) : Happening → Session
  | .move m => s.move m
  | .unsent id failure =>
    match s.calls[id]? with
    | none => s
    | some c =>
      match c.stage with
      | .numbered n => (s.unregister n).endSlotted id (.error (c.job.failure failure))
      | _ => s

def happenings (s : Session) (all : List Happening) : Session :=
  all.foldl happen s

theorem happenUnsent (found : s.calls[id]? = some c) (failure : ProverFailure) :
    (∃ n, c.stage = .numbered n ∧ s.happen (.unsent id failure) =
      (s.unregister n).endSlotted id (.error (c.job.failure failure))) ∨
    s.happen (.unsent id failure) = s := by
  cases stage : c.stage with
  | numbered n => exact .inl ⟨n,rfl,by simp only [happen, found, stage]⟩
  | queued | waiting _ _ | following _ _ | ended _ =>
    exact .inr (by simp only [happen, found, stage])

/-! ### Slots -/

def taken (s : Session) : Nat :=
  s.calls.countP Call.holds

def slots (s : Session) : Nat :=
  s.free + s.taken

theorem modifyTaken {calls : List Call} (found : calls[id]? = some c) (f : Call → Call) :
    (calls.modify id f).countP Call.holds + c.holds.toNat =
      calls.countP Call.holds + (f c).holds.toNat := by
  obtain ⟨inside, here⟩ := List.getElem?_eq_some_iff.mp found
  rw [modifyFound found, List.countP_set inside, here]
  have counted : c.holds → 0 < calls.countP Call.holds := fun holds =>
    List.countP_pos_iff.mpr ⟨c,List.mem_of_getElem? found,holds⟩
  cases before : c.holds with
  | false => cases after : (f c).holds <;> simp
  | true =>
    have := counted before
    cases after : (f c).holds <;> simp <;> omega

theorem keptTaken {calls : List Call} {f : Call → Call}
    (same : ∀ c, calls[id]? = some c → (f c).holds = c.holds) :
    (calls.modify id f).countP Call.holds = calls.countP Call.holds := by
  cases found : calls[id]? with
  | none => rw [List.modify_eq_set_getElem?, found]; rfl
  | some c =>
    have counted := modifyTaken found f
    rw [same c found] at counted
    omega

theorem keptSlots {f : Call → Call} (same : ∀ c, s.calls[id]? = some c → (f c).holds = c.holds) :
    { s with calls := s.calls.modify id f }.slots = s.slots :=
  congrArg (s.free + ·) (keptTaken same)

theorem setStageSlots (found : s.calls[id]? = some c) (stage : Stage)
    (same : stage.number?.isSome = c.stage.number?.isSome) :
    (s.setStage id stage).slots = s.slots := by
  refine keptSlots fun b here => ?_
  cases found.symm.trans here
  exact same

theorem returnedSlots (found : s.calls[id]? = some c) (number : c.stage.number? = some n)
    (stage : Stage) (returned : stage.submits = false) :
    { s.setStage id stage with free := s.free + 1 }.slots = s.slots := by
  have counted := modifyTaken found fun c => { c with stage }
  have before : c.holds = true := by rw [Call.holds, number]; rfl
  have after : Call.holds { c with stage } = false := by
    rw [Call.holds, Stage.returnedNumber returned]
    rfl
  rw [before, after, Bool.toNat_true, Bool.toNat_false] at counted
  show s.free + 1 + (s.calls.modify id fun c => { c with stage }).countP Call.holds =
    s.free + s.calls.countP Call.holds
  omega

theorem endSlottedSlots (found : s.calls[id]? = some c) (number : c.stage.number? = some n)
    (result : Except ProverFailure Finding) : (s.endSlotted id result).slots = s.slots :=
  returnedSlots found number (.ended result) rfl

theorem answerSlots (s : Session) (number : Nat) (result : Except ProverFailure Reply) :
    (s.answer number result).slots = s.slots := by
  rw [answer]
  split
  · rfl
  · exact keptSlots fun _ _ => rfl

theorem shutTaken (waiters : List (Nat × Nat)) (calls : List Call) :
    (waiters.foldl (fun calls (_, id) =>
        calls.modify id fun c => { c with reply := some (.error .closed) }) calls).countP Call.holds =
      calls.countP Call.holds := by
  induction waiters generalizing calls with
  | nil => rfl
  | cons waiter waiters ih => exact (ih _).trans (keptTaken fun _ _ => rfl)

theorem shutSlots (s : Session) : s.shut.slots = s.slots :=
  congrArg (s.free + ·) (shutTaken s.waiters s.calls)

theorem beginSlots (s : Session) (job : Job) (timeout : Duration) :
    (s.begin job timeout).slots = s.slots := by
  refine congrArg (s.free + ·) ?_
  rw [taken, begin, List.countP_append]
  rfl

theorem enterSlots (found : s.calls[id]? = some c) (queued : c.stage = .queued) :
    (s.enter id).slots = s.slots := by
  rw [enter]
  split
  · rfl
  · rename_i turn
    split
    · simp only [found]
      exact setStageSlots found _ (by rw [queued]; rfl)
    · have counted := modifyTaken found fun c => { c with stage := .numbered s.nextNumber }
      have before : c.holds = false := by rw [Call.holds, queued]; rfl
      rw [before, Bool.toNat_false] at counted
      have room : s.free ≠ 0 := fun exhausted => turn (.inl exhausted)
      show s.free - 1 + (s.calls.modify id _).countP Call.holds =
        s.free + s.calls.countP Call.holds
      rw [show (Call.holds { c with stage := .numbered s.nextNumber }).toNat = 1 from rfl] at counted
      omega

theorem writeSlots (found : s.calls[id]? = some c) (numbered : c.stage = .numbered n) :
    (s.write id c n).slots = s.slots := by
  have number : c.stage.number? = some n := by rw [numbered]; rfl
  rw [write]
  split
  · exact setStageSlots found (.waiting n _) (by rw [number]; rfl)
  · exact endSlottedSlots found number _

theorem resumeSlots (found : s.calls[id]? = some c) (number : c.stage.number? = some n)
    (result : Except ProverFailure Reply) : (s.resume id c n result).slots = s.slots := by
  cases result with
  | error e => exact endSlottedSlots found number _
  | ok reply =>
    simp only [resume]
    split
    · exact endSlottedSlots found number _
    · split
      · exact endSlottedSlots found number _
      · exact returnedSlots found number (.following n {}) rfl

theorem followSlots (found : s.calls[id]? = some c) {progress : Progress}
    (following : c.stage = .following n progress) : (s.follow id c n progress).slots = s.slots := by
  have numberless : false = c.stage.number?.isSome := by rw [following]; rfl
  rw [follow]
  split
  · refine keptSlots fun b here => ?_
    cases found.symm.trans here
    exact numberless
  · exact setStageSlots found (.ended _) numberless
  · exact setStageSlots found (.ended _) numberless

theorem proceedSlots (s : Session) (id : Nat) : (s.proceed id).slots = s.slots := by
  cases found : s.calls[id]? with
  | none => rw [proceed, found]
  | some c =>
    cases stage : c.stage with
    | queued =>
      simp only [proceed, found, stage]
      exact enterSlots found stage
    | numbered n =>
      simp only [proceed, found, stage]
      exact writeSlots found stage
    | waiting n deadline =>
      simp only [proceed, found, stage]
      split
      · exact resumeSlots found (by rw [stage]; rfl) _
      · rfl
    | following n progress =>
      simp only [proceed, found, stage]
      exact followSlots found stage
    | ended result => simp only [proceed, found, stage]

theorem expireSlots (s : Session) (id : Nat) : (s.expire id).slots = s.slots := by
  cases found : s.calls[id]? with
  | none => rw [expire, found]
  | some c =>
    cases stage : c.stage with
    | waiting n deadline =>
      simp only [expire, found, stage]
      split
      · exact endSlottedSlots (s := s.unregister n) found (by rw [stage]; rfl) _
      · rfl
    | following n progress =>
      simp only [expire, found, stage]
      split
      · exact setStageSlots found (.ended _) (by rw [stage]; rfl)
      · rfl
    | queued | numbered _ | ended _ => simp only [expire, found, stage]

theorem receiveSlots (s : Session) (line : Response) : (s.receive line).slots = s.slots := by
  cases line with
  | accepted number message => exact answerSlots ..
  | refused number message =>
    cases number with
    | none => rfl
    | some number => exact answerSlots ..
  | messages batch => rfl
  | tasks running tasks =>
    simp only [receive]
    split <;> split <;> rfl
  | other => rfl

theorem moveSlots (s : Session) (m : Move) : (s.move m).slots = s.slots := by
  cases m with
  | begin job timeout => exact beginSlots s job timeout
  | proceed id => exact proceedSlots s id
  | expire id => exact expireSlots s id
  | receive line =>
    rw [move]
    split
    · exact receiveSlots s line
    · rfl
  | pass milliseconds => rfl
  | endOutput =>
    rw [move]
    split
    · exact shutSlots { s with listens := false }
    · rfl
  | closeInput => rfl
  | stop => exact shutSlots { s with listens := false }

/-! ### The table -/

def Enrolled (waiters : List (Nat × Nat)) : Prop :=
  (waiters.map (·.2)).Nodup

theorem Effect.enrolled {m : Move} {d : Desk} (effect : Effect s m d) (sound : s.desk.Sound)
    (once : Enrolled s.waiters) : Enrolled d.waiters := by
  cases effect with
  | idle | begins _ _ | writes _ _ | follows _ _ => exact once
  | @enters id c found queued =>
    have absent : id ∉ s.waiters.map (·.2) := by
      intro mem
      obtain ⟨⟨n, _⟩, registered, rfl⟩ := List.mem_map.mp mem
      exact sound.absent found (.inl (by rw [queued]; rfl)) n registered
    rw [Enrolled, List.map_append]
    exact List.nodup_append'.mpr ⟨once,List.nodup_singleton _,by simpa using absent⟩
  | returns _ _ _ | answers _ _ => exact once.sublist (List.filter_sublist.map _)
  | shuts closing each => exact List.nodup_nil

theorem waitersTaken (sound : s.desk.Sound) (once : Enrolled s.waiters) :
    s.waiters.length ≤ s.taken := by
  have holders : s.waiters.map (·.2) ⊆ s.calls.findIdxs Call.holds := by
    intro id mem
    obtain ⟨⟨n, same⟩, registered, rfl⟩ := List.mem_map.mp mem
    obtain ⟨c, found, number, _⟩ := sound.owned registered
    obtain ⟨inside, here⟩ := List.getElem?_eq_some_iff.mp found
    have holds : c.holds = true := by rw [Call.holds, number]; rfl
    exact List.mem_findIdxs_iff_exists_getElem_pos.mpr ⟨inside,(congrArg Call.holds here).trans holds⟩
  calc s.waiters.length = (s.waiters.map (·.2)).length := (List.length_map _).symm
    _ ≤ (s.calls.findIdxs Call.holds).length := once.length_le_of_subset holders
    _ = s.taken := List.length_findIdxs

/-! ### Whatever happens -/

structure Keeps (count : Nat) (s : Session) : Prop where
  sound : s.desk.Sound
  once : Enrolled s.waiters
  slots : s.slots = count

variable {count : Nat}

theorem startKeeps (settings : ProverSettings) : (start settings).Keeps settings.capacity where
  sound := startSound settings
  once := List.nodup_nil
  slots := rfl

theorem moveKeeps (keeps : s.Keeps count) (m : Move) : (s.move m).Keeps count where
  sound := moveSound keeps.sound m
  once := (moveEffect keeps.sound m).enrolled keeps.sound keeps.once
  slots := (moveSlots s m).trans keeps.slots

theorem unsentKeeps (keeps : s.Keeps count) (id : Nat) (failure : ProverFailure) :
    (s.happen (.unsent id failure)).Keeps count := by
  cases found : s.calls[id]? with
  | none =>
    rw [happen, found]
    exact keeps
  | some c =>
    rcases happenUnsent found failure with ⟨n, numbered, same⟩ | same
    · have number : c.stage.number? = some n := by rw [numbered]; rfl
      rw [same]
      refine ⟨?_,?_,?_⟩
      · have off := offTable keeps.sound found number fun c' => { c' with
          stage := .ended (.error (c.job.failure failure)) }
        exact (congrArg Desk.Sound off).mpr (keeps.sound.leave found rfl)
      · exact keeps.once.sublist (List.filter_sublist.map _)
      · exact (endSlottedSlots (s := s.unregister n) found number _).trans keeps.slots
    · rw [same]
      exact keeps

theorem happeningsKeep (keeps : s.Keeps count) (all : List Happening) :
    (s.happenings all).Keeps count := by
  induction all generalizing s with
  | nil => exact keeps
  | cons happening all ih =>
    refine ih ?_
    cases happening with
    | move m => exact moveKeeps keeps m
    | unsent id failure => exact unsentKeeps keeps id failure

structure Slotted (count : Nat) (s : Session) : Prop where
  room : 1 ≤ count
  registered : s.waiters.length ≤ s.taken
  bounded : s.taken ≤ count
  conserved : s.free + s.taken = count
  returned : ∀ {id : Nat} {c : Call}, s.calls[id]? = some c → c.stage.submits = false →
    c.holds = false ∧ ∀ n, (n,id) ∉ s.waiters
  quiet : (∀ c ∈ s.calls, c.stage.submits = false) → s.free = count ∧ s.waiters = []

theorem slotsKept (settings : ProverSettings) (all : List Happening) :
    ((start settings).happenings all).Slotted settings.capacity := by
  have keeps := happeningsKeep (startKeeps settings) all
  generalize (start settings).happenings all = s at keeps
  have conserved : s.free + s.taken = settings.capacity := keeps.slots
  have registered := waitersTaken keeps.sound keeps.once
  have offered {c : Call} (returned : c.stage.submits = false) : c.holds = false := by
    rw [Call.holds, Stage.returnedNumber returned]
    rfl
  refine ⟨Nat.le_max_right ..,registered,by omega,conserved,?_,?_⟩
  · intro id c found returned
    exact ⟨offered returned,keeps.sound.absent found (.inl (Stage.returnedNumber returned))⟩
  · intro each
    have untaken : s.taken = 0 :=
      List.countP_eq_zero.mpr fun c mem => by simp [offered (each c mem)]
    exact ⟨by omega,List.length_eq_zero_iff.mp (by omega)⟩

end Session
end ProofTutor
