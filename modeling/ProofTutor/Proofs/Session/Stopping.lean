import ProofTutor.Proofs.Session.Slots
import ProofTutor.Session.Schedule

/-!
The end of a session. Once it is stopped it stays so until a call waits for the prover to be ready:
every other call that begins is refused, is never on the table and writes nothing, and it does come to
its end, however many calls were under way.
-/
namespace ProofTutor

def Call.Refused (c : Call) : Prop :=
  c.stage = .ended (.error (c.job.failure .closed))

def Move.readies : Move → Bool
  | .begin .readiness _ => true
  | _ => false

namespace Session

def Quiet (moves : List Move) : Prop :=
  ∀ m ∈ moves, m.readies = false

variable {s s' : Session} {m : Move} {id n : Nat} {c : Call} {moves : List Move}

/-! ### A stopped session -/

structure Shut (s : Session) : Prop where
  phase : s.phase = .stopped
  deaf : s.listens = false
  table : s.waiters = []

structure Stands (s s' : Session) : Prop where
  phase : s'.phase = s.phase
  listens : s'.listens = s.listens
  table : s.phase = .stopped → s'.waiters ⊆ s.waiters

theorem Stands.shut (stands : s.Stands s') (shut : s.Shut) : s'.Shut where
  phase := stands.phase.trans shut.phase
  deaf := stands.listens.trans shut.deaf
  table := List.subset_nil.mp (shut.table ▸ stands.table shut.phase)

theorem standsRefl (s : Session) : s.Stands s :=
  ⟨rfl,rfl,fun _ => List.Subset.refl _⟩

theorem enterStands (s : Session) (id : Nat) : s.Stands (s.enter id) := by
  rw [enter]
  split
  · exact s.standsRefl
  · split
    · split
      · exact ⟨rfl,rfl,fun _ => List.Subset.refl _⟩
      · exact s.standsRefl
    · rename_i goesOn
      exact ⟨rfl,rfl,fun stopped => absurd stopped goesOn⟩

theorem writeStands (s : Session) (id : Nat) (c : Call) (n : Nat) : s.Stands (s.write id c n) := by
  rw [write]
  split
  · exact ⟨rfl,rfl,fun _ => List.Subset.refl _⟩
  · exact ⟨rfl,rfl,fun _ => List.filter_sublist.subset⟩

theorem resumeStands (s : Session) (id : Nat) (c : Call) (n : Nat)
    (result : Except ProverFailure Reply) : s.Stands (s.resume id c n result) := by
  cases result with
  | error e => exact ⟨rfl,rfl,fun _ => List.Subset.refl _⟩
  | ok reply =>
    simp only [resume]
    split
    · exact ⟨rfl,rfl,fun _ => List.Subset.refl _⟩
    · split <;> exact ⟨rfl,rfl,fun _ => List.Subset.refl _⟩

theorem followStands (s : Session) (id : Nat) (c : Call) (n : Nat) (progress : Progress) :
    s.Stands (s.follow id c n progress) := by
  rw [follow]
  split <;> exact ⟨rfl,rfl,fun _ => List.Subset.refl _⟩

theorem proceedStands (s : Session) (id : Nat) : s.Stands (s.proceed id) := by
  rw [proceed]
  split
  · exact s.standsRefl
  · split
    · exact s.enterStands id
    · exact writeStands ..
    · split
      · exact resumeStands ..
      · exact s.standsRefl
    · exact followStands ..
    · exact s.standsRefl

theorem expireStands (s : Session) (id : Nat) : s.Stands (s.expire id) := by
  rw [expire]
  split
  · exact s.standsRefl
  · simp only
    split
    · split
      · exact ⟨rfl,rfl,fun _ => List.filter_sublist.subset⟩
      · exact s.standsRefl
    · split
      · exact ⟨rfl,rfl,fun _ => List.Subset.refl _⟩
      · exact s.standsRefl
    · exact s.standsRefl

theorem moveShut (shut : s.Shut) (other : m.readies = false) :
    (s.move m).Shut := by
  cases m with
  | begin job timeout =>
    cases job with
    | readiness => cases other
    | information _ _ | check _ => exact ⟨shut.phase,shut.deaf,shut.table⟩
  | proceed id => exact (s.proceedStands id).shut shut
  | expire id => exact (s.expireStands id).shut shut
  | receive line =>
    rw [move, shut.deaf]
    exact shut
  | pass milliseconds | closeInput => exact ⟨shut.phase,shut.deaf,shut.table⟩
  | endOutput =>
    rw [move, shut.deaf]
    exact shut
  | stop => exact ⟨rfl,rfl,rfl⟩

theorem answerPhase (s : Session) (n : Nat) (result : Except ProverFailure Reply) :
    (s.answer n result).phase = s.phase := by
  rw [answer]
  split <;> rfl

theorem receivePhase {line : Response} (stopped : (s.receive line).phase = .stopped) :
    s.phase = .stopped := by
  cases line with
  | accepted number message => exact (answerPhase ..).symm.trans stopped
  | refused number message =>
    cases number with
    | none => exact stopped
    | some number => exact (answerPhase ..).symm.trans stopped
  | messages batch | other => exact stopped
  | tasks running tasks =>
    have now : (s.receive (.tasks running tasks)).phase = if running then .active else .ready := by
      simp only [receive]
      generalize (if running = true then Phase.active else .ready) = phase
      show (if s.phase = phase then s else { s with phase }.emit (.phase phase)).phase = phase
      split
      · assumption
      · rfl
    cases running <;> cases now.symm.trans stopped

theorem readiesPhase (readies : m.readies = true) : (s.move m).phase = .starting := by
  cases m with
  | begin job timeout =>
    cases job with
    | readiness => rfl
    | information _ _ | check _ => cases readies
  | proceed _ | expire _ | receive _ | pass _ | endOutput | closeInput | stop => cases readies

theorem moveStopped (before : s.phase = .stopped → s.Shut) (stopped : (s.move m).phase = .stopped) :
    (s.move m).Shut := by
  by_cases already : s.phase = .stopped
  · refine moveShut (before already) ?_
    cases readies : m.readies with
    | false => rfl
    | true =>
      rw [readiesPhase readies] at stopped
      cases stopped
  · have never {s' : Session} (stands : s.Stands s') : s'.phase ≠ .stopped :=
      fun same => already (stands.phase.symm.trans same)
    cases m with
    | begin job timeout =>
      have same : (if job = .readiness then Phase.starting else s.phase) = .stopped := stopped
      split at same
      · cases same
      · exact absurd same already
    | proceed id => exact absurd stopped (never (s.proceedStands id))
    | expire id => exact absurd stopped (never (s.expireStands id))
    | receive line =>
      rw [move] at stopped
      split at stopped
      · exact absurd (receivePhase stopped) already
      · exact absurd stopped already
    | pass milliseconds | closeInput => exact absurd stopped already
    | endOutput =>
      rw [move] at stopped ⊢
      split at stopped
      · rename_i listens
        rw [if_pos listens]
        exact ⟨rfl,rfl,rfl⟩
      · exact absurd stopped already
    | stop => exact ⟨rfl,rfl,rfl⟩

theorem runStopped (settings : ProverSettings)
    (stopped : ((start settings).run moves).phase = .stopped) : ((start settings).run moves).Shut := by
  induction moves using List.reverseRecOn with
  | nil => cases stopped
  | append_singleton moves m ih =>
    rw [runSnoc] at stopped ⊢
    exact moveStopped ih stopped

theorem runShut (shut : s.Shut) (quiet : Quiet moves) :
    (s.run moves).Shut := by
  induction moves generalizing s with
  | nil => exact shut
  | cons m moves ih =>
    obtain ⟨other, quiet⟩ := List.forall_mem_cons.mp quiet
    exact ih (moveShut shut other) quiet

theorem staysStopped (shut : s.Shut) :
    (∀ first, first <+: moves → (s.run first).phase = .stopped) ↔ Quiet moves := by
  constructor
  · intro stays m mem
    obtain ⟨before, after, rfl⟩ := List.append_of_mem mem
    have stopped := stays (before ++ [m]) ⟨after,by simp⟩
    rw [runSnoc] at stopped
    cases readies : m.readies with
    | false => rfl
    | true => cases (readiesPhase readies).symm.trans stopped
  · intro quiet first within
    exact (runShut shut fun m mem => quiet m (within.subset mem)).phase

/-! ### Calls that begin too late -/

structure Barred (count : Nat) (s : Session) : Prop where
  sound : s.desk.Sound
  shut : s.Shut
  late : ∀ {id : Nat} {c : Call}, s.calls[id]? = some c → count ≤ id →
    c.stage = .queued ∨ c.Refused

variable {count : Nat}

theorem moveBarred (barred : s.Barred count) (other : m.readies = false) :
    (s.move m).Barred count := by
  have shut := moveShut barred.shut other
  refine ⟨moveSound barred.sound m,shut,?_⟩
  intro id c' found late
  have effect := moveEffect barred.sound m
  rcases effect.origin found with ⟨queued, _⟩ | ⟨c, before, goes⟩
  · exact .inl queued
  have held : c.stage.number? = none ∧ ∀ n p, c.stage ≠ .following n p := by
    rcases barred.late before late with queued | refused
    · rw [queued]
      exact ⟨rfl,nofun⟩
    · rw [refused]
      exact ⟨rfl,nofun⟩
  cases goes with
  | stays => exact barred.late before late
  | enters own queued enrolled =>
    rw [show (s.move m).desk.waiters = [] from shut.table] at enrolled
    cases enrolled
  | writes numbered =>
    rw [numbered] at held
    cases held.1
  | returns returned off =>
    cases returned with
    | answered there waits reply | late there waits reply due =>
      cases before.symm.trans there
      rw [waits] at held
      cases held.1
    | unwritten there numbered closed =>
      cases before.symm.trans there
      rw [numbered] at held
      cases held.1
    | refused there queued turn stopped => exact .inr rfl
  | follows followed =>
    cases followed with
    | hears stage _ | finishes stage _ | closes stage | late stage => exact absurd stage (held.2 _ _)
  | answered received answers off =>
    cases barred.shut.deaf.symm.trans answers.listens
  | closed closing registered off =>
    rw [barred.shut.table] at registered
    cases registered

theorem runBarred (barred : s.Barred count) (quiet : Quiet moves) :
    (s.run moves).Barred count := by
  induction moves generalizing s with
  | nil => exact barred
  | cons m moves ih =>
    obtain ⟨other, quiet⟩ := List.forall_mem_cons.mp quiet
    exact ih (moveBarred barred other) quiet

/-! ### They come to their end -/

def Attended (s : Session) : Prop :=
  ∀ {id n : Nat} {c : Call}, s.calls[id]? = some c → c.stage.number? = some n →
    c.reply ≠ none ∨ (n,id) ∈ s.waiters

theorem moveAttended (sound : s.desk.Sound) (attended : s.Attended) (m : Move) :
    (s.move m).Attended := by
  intro id n c' found number
  have effect := moveEffect sound m
  change (s.move m).desk.calls[id]? = some c' at found
  show _ ∨ (n,id) ∈ (s.move m).desk.waiters
  generalize (s.move m).desk = d at effect found
  cases effect with
  | idle => exact attended found number
  | @begins job timeout c queued unanswered =>
    rw [List.getElem?_append] at found
    split at found
    · exact attended found number
    · cases List.mem_singleton.mp (List.mem_of_getElem? found)
      exact absurd queued (Stage.numberedTaken number)
  | enters here queued =>
    rw [setFound here] at found
    split at found
    · rename_i same
      cases found
      cases number
      exact .inr (List.mem_append_right _ (same ▸ List.mem_singleton_self _))
    · exact (attended found number).imp_right (List.mem_append_left _)
  | writes here numbered =>
    rw [setFound here] at found
    split at found
    · rename_i same
      subst same
      cases found
      have before := attended here (n := n) (by rw [numbered]; exact number)
      exact before
    · exact attended found number
  | returns _ here returned =>
    rw [setFound here] at found
    split at found
    · cases found
      cases (Stage.returnedNumber (Call.goesOnReturned ..)).symm.trans number
    · rename_i apart
      exact (attended found number).imp_right fun mem => List.mem_filter.mpr ⟨mem,by simpa using apart⟩
  | follows here followed =>
    rw [setFound here] at found
    split at found
    · cases found
      cases (Stage.returnedNumber followed.after).symm.trans number
    · exact attended found number
  | answers answers here =>
    rw [setFound here] at found
    split at found
    · cases found
      exact .inl nofun
    · rename_i apart
      exact (attended found number).imp_right fun mem => List.mem_filter.mpr ⟨mem,by simpa using apart⟩
  | shuts closing each =>
    obtain ⟨c, before, same⟩ := Option.map_eq_some_iff.mp ((each id).symm.trans found)
    split at same
    · rw [← same]
      exact .inl nofun
    · rename_i off
      subst same
      exact (attended before number).imp_right fun mem => absurd (List.mem_map_of_mem mem) off

structure Ending (count capacity : Nat) (s : Session) : Prop where
  barred : s.Barred count
  attended : s.Attended
  keeps : s.Keeps capacity

variable {capacity : Nat}

theorem moveEnding (ending : s.Ending count capacity)
    (other : m.readies = false) : (s.move m).Ending count capacity where
  barred := moveBarred ending.barred other
  attended := moveAttended ending.barred.sound ending.attended m
  keeps := moveKeeps ending.keeps m

def Freed (s : Session) (id : Nat) : Prop :=
  ∀ c, s.calls[id]? = some c → c.holds = false

theorem moveFreed (ending : s.Ending count capacity) (other : m.readies = false)
    (freed : s.Freed id) : (s.move m).Freed id := by
  intro c' found
  have effect := moveEffect ending.barred.sound m
  cases number : c'.stage.number? with
  | none => rw [Call.holds, number]; rfl
  | some n =>
    rcases effect.origin found with ⟨queued, _⟩ | ⟨c, before, goes⟩
    · exact absurd queued (Stage.numberedTaken number)
    rcases goes.number number with held | ⟨_, _, enrolled⟩
    · have unheld := freed c before
      rw [Call.holds, held] at unheld
      cases unheld
    · rw [show (s.move m).desk.waiters = [] from (moveShut ending.barred.shut other).table] at enrolled
      cases enrolled

theorem returnsFreed (sound : s.desk.Sound) {result : Except ProverFailure Reply}
    (returned : Returns s id m result) : (s.move m).Freed id := by
  obtain ⟨c, number, found, same⟩ := returned.leaves sound
  intro c' after
  have calls : (s.move m).calls = _ := congrArg Desk.calls same
  rw [calls, setFound found, if_pos rfl] at after
  cases after
  rw [Call.holds, Stage.returnedNumber (Call.goesOnReturned ..)]
  rfl

theorem waitingFreed (ending : s.Ending count capacity) (found : s.calls[id]? = some c)
    {deadline : Nat} (waits : c.stage = .waiting n deadline) : (s.move (.proceed id)).Freed id := by
  cases reply : c.reply with
  | some result => exact returnsFreed ending.barred.sound (.answered found waits reply)
  | none =>
    rcases ending.attended found (n := n) (by rw [waits]; rfl) with answered | registered
    · exact absurd reply answered
    · rw [ending.barred.shut.table] at registered
      cases registered

theorem numberedFreed (ending : s.Ending count capacity) (found : s.calls[id]? = some c)
    (numbered : c.stage = .numbered n) :
    ((s.move (.proceed id)).move (.proceed id)).Freed id := by
  have next := moveEnding (m := .proceed id) ending rfl
  cases inputOpen : s.inputOpen with
  | false =>
    exact moveFreed next rfl
      (returnsFreed ending.barred.sound (.unwritten found numbered inputOpen))
  | true =>
    have written : (s.move (.proceed id)).calls[id]? = some { c with
        stage := .waiting n (s.now + c.timeout.milliseconds) } := by
      rw [show s.move (.proceed id) = s.write id c n by simp only [move, proceed, found, numbered],
        write, if_pos inputOpen]
      show (s.calls.modify id _)[id]? = _
      rw [modifyFound found, setFound found, if_pos rfl]
    exact waitingFreed next written rfl

theorem runCons (s : Session) (m : Move) (moves : List Move) :
    s.run (m :: moves) = (s.move m).run moves := rfl

theorem runEnding (ending : s.Ending count capacity)
    (quiet : Quiet moves) : (s.run moves).Ending count capacity := by
  induction moves generalizing s with
  | nil => exact ending
  | cons m moves ih =>
    obtain ⟨other, quiet⟩ := List.forall_mem_cons.mp quiet
    exact ih (moveEnding ending other) quiet

theorem runFreed (ending : s.Ending count capacity)
    (quiet : Quiet moves) (freed : s.Freed id) :
    (s.run moves).Freed id := by
  induction moves generalizing s with
  | nil => exact freed
  | cons m moves ih =>
    obtain ⟨other, quiet⟩ := List.forall_mem_cons.mp quiet
    exact ih (moveEnding ending other) quiet (moveFreed ending other freed)

def going (id : Nat) : List Move :=
  [.proceed id,.proceed id,.proceed id,.proceed id,.expire id]

def advancing (ids : List Nat) : List Move :=
  ids.flatMap going

theorem goingQuiet (id : Nat) : Quiet (going id) := by
  simp [Quiet, going, Move.readies]

theorem advancingQuiet (ids : List Nat) : Quiet (advancing ids) := by
  intro m mem
  obtain ⟨id, _, mem⟩ := List.mem_flatMap.mp mem
  exact goingQuiet id m mem

theorem advanceRun (s : Session) (ids : List Nat) : ids.foldl advance s = s.run (advancing ids) := by
  rw [run, advancing, List.foldl_flatMap]
  rfl

theorem goingFreed (ending : s.Ending count capacity) (id : Nat) : (s.run (going id)).Freed id := by
  have one := moveEnding (m := .proceed id) ending rfl
  have two := moveEnding (m := .proceed id) one rfl
  -- two steps are enough to give the slot back, and the others take none
  rw [going, runCons, runCons]
  refine runFreed two (by simp [Quiet, Move.readies]) ?_
  cases found : s.calls[id]? with
  | none =>
    have absent : s.Freed id := fun c here => by cases found.symm.trans here
    exact moveFreed one rfl (moveFreed ending rfl absent)
  | some c =>
    cases stage : c.stage with
    | numbered n => exact numberedFreed ending found stage
    | waiting n deadline => exact moveFreed one rfl (waitingFreed ending found stage)
    | queued | following _ _ | ended _ =>
      have freed : s.Freed id := by
        intro b here
        cases found.symm.trans here
        rw [Call.holds, stage]
        rfl
      exact moveFreed one rfl (moveFreed ending rfl freed)

theorem passFreed (ending : s.Ending count capacity) {ids : List Nat} (mem : id ∈ ids) :
    (s.run (advancing ids)).Freed id := by
  obtain ⟨before, after, rfl⟩ := List.append_of_mem mem
  have ends := runEnding ending (advancingQuiet before)
  rw [advancing, List.flatMap_append, List.flatMap_cons, runAppend, runAppend]
  exact runFreed (runEnding ends (goingQuiet id)) (advancingQuiet after) (goingFreed ends id)

theorem advanceAllFreed (ending : s.Ending count capacity) (id : Nat) : s.advanceAll.Freed id := by
  rw [advanceAll, advanceRun]
  by_cases inside : id < s.calls.length
  · exact passFreed ending (List.mem_range.mpr inside)
  · refine runFreed ending (advancingQuiet _) fun c found => ?_
    exact absurd (List.getElem?_eq_some_iff.mp found).1 inside

def Entered (s : Session) (id : Nat) : Prop :=
  ∃ c, s.calls[id]? = some c ∧ c.stage ≠ .queued

theorem runEntered (sound : s.desk.Sound) (moves : List Move) (entered : s.Entered id) :
    (s.run moves).Entered id := by
  obtain ⟨c, found, entered⟩ := entered
  obtain ⟨c', after, becomes⟩ := runBecomes sound moves found
  exact ⟨c',after,becomesEntered becomes entered⟩

theorem proceedEntered (ending : s.Ending count capacity) (room : capacity ≠ 0)
    (freed : ∀ id, s.Freed id) (before : ∀ i < id, s.Entered i) (inside : id < s.calls.length) :
    (s.move (.proceed id)).Entered id := by
  obtain ⟨c, found⟩ : ∃ c, s.calls[id]? = some c := ⟨_,List.getElem?_eq_getElem inside⟩
  by_cases queued : c.stage = .queued
  · have untaken : s.taken = 0 := by
      refine List.countP_eq_zero.mpr fun b mem => ?_
      obtain ⟨i, here⟩ := List.mem_iff_getElem?.mp mem
      simp [freed i b here]
    have all : s.free + s.taken = capacity := ending.keeps.slots
    have first : s.isFirstQueued id = true := by
      refine List.all_eq_true.mpr fun b mem => ?_
      obtain ⟨i, here⟩ := List.mem_iff_getElem?.mp mem
      rw [List.getElem?_take] at here
      obtain ⟨earlier, here⟩ := Option.ite_none_right_eq_some.mp here
      obtain ⟨b', there, entered⟩ := before i earlier
      cases here.symm.trans there
      cases stage : b.stage with
      | queued => exact absurd stage entered
      | _ => rfl
    have turn : ¬(s.free = 0 ∨ !s.isFirstQueued id) := by
      rw [first]
      simp
      omega
    obtain ⟨b, number, there, same⟩ :=
      (Returns.refused found queued turn ending.barred.shut.phase).leaves ending.barred.sound
    have calls : (s.move (.proceed id)).calls = _ := congrArg Desk.calls same
    refine ⟨_,by rw [calls, setFound there, if_pos rfl],?_⟩
    exact nofun
  · exact runEntered ending.barred.sound [.proceed id] ⟨c,found,queued⟩

theorem passEntered (ending : s.Ending count capacity) (room : capacity ≠ 0)
    (freed : ∀ id, s.Freed id) {many : Nat} (within : many ≤ s.calls.length) :
    ∀ i < many, (s.run (advancing (List.range many))).Entered i := by
  induction many with
  | zero => exact fun i below => absurd below (Nat.not_lt_zero i)
  | succ many ih =>
    have quiet := advancingQuiet (List.range many)
    have ends := runEnding ending quiet
    have before := ih (by omega)
    have inside : many < (s.run (advancing (List.range many))).calls.length := by
      obtain ⟨c, after, _⟩ := runBecomes ending.barred.sound (advancing (List.range many))
        (List.getElem?_eq_getElem (by omega : many < s.calls.length))
      exact (List.getElem?_eq_some_iff.mp after).1
    have turn := proceedEntered ends room (fun id => runFreed ending quiet (freed id)) before inside
    rw [List.range_succ, advancing, List.flatMap_append, List.flatMap_singleton, runAppend]
    intro i within
    rcases Nat.lt_succ_iff_lt_or_eq.mp within with earlier | rfl
    · exact runEntered ends.barred.sound _ (before i earlier)
    · rw [going, runCons]
      exact runEntered (moveSound ends.barred.sound _) _ turn

theorem repeatRun (s : Session) (more : Nat) : ∃ moves, Quiet moves ∧
    Nat.repeat advanceAll (more + 2) s = s.advanceAll.advanceAll.run moves := by
  induction more with
  | zero => exact ⟨[],nofun,rfl⟩
  | succ more ih =>
    obtain ⟨moves, quiet, same⟩ := ih
    refine ⟨moves ++ advancing (List.range (s.advanceAll.advanceAll.run moves).calls.length),?_,?_⟩
    · exact List.forall_mem_append.mpr ⟨quiet,advancingQuiet _⟩
    · rw [runAppend, ← advanceRun, ← same]
      rfl

theorem advanceAllRun (s : Session) :
    s.advanceAll = s.run (advancing (List.range s.calls.length)) :=
  advanceRun s _

theorem settleRefuses (ending : s.Ending count capacity) (room : capacity ≠ 0) (late : count ≤ id)
    (found : s.calls[id]? = some c) :
    ∃ c', s.settle.calls[id]? = some c' ∧ c'.job = c.job ∧ c'.Refused := by
  obtain ⟨inside, _⟩ := List.getElem?_eq_some_iff.mp found
  obtain ⟨more, many⟩ : ∃ more, s.calls.length = more + 1 := ⟨s.calls.length - 1,by omega⟩
  obtain ⟨moves, quiet, same⟩ := repeatRun s more
  have once : s.advanceAll.Ending count capacity := by
    rw [advanceAllRun]
    exact runEnding ending (advancingQuiet _)
  have twice : s.advanceAll.advanceAll.Ending count capacity := by
    rw [advanceAllRun s.advanceAll]
    exact runEnding once (advancingQuiet _)
  obtain ⟨c₁, found₁, first⟩ : ∃ c₁, s.advanceAll.calls[id]? = some c₁ ∧ c.Becomes c₁ := by
    rw [advanceAllRun]
    exact runBecomes ending.barred.sound _ found
  obtain ⟨c₂, found₂, second⟩ : ∃ c₂, s.advanceAll.advanceAll.calls[id]? = some c₂ ∧
      c₁.Becomes c₂ := by
    rw [advanceAllRun s.advanceAll]
    exact runBecomes once.barred.sound _ found₁
  obtain ⟨c₃, found₃, third⟩ := runBecomes twice.barred.sound moves found₂
  have entered : s.advanceAll.advanceAll.Entered id := by
    rw [advanceAllRun s.advanceAll]
    exact passEntered once room (advanceAllFreed ending) (Nat.le_refl _) id
      (List.getElem?_eq_some_iff.mp found₁).1
  rw [settle, many, same]
  refine ⟨c₃,found₃,third.job.trans (second.job.trans first.job),?_⟩
  obtain ⟨b, here, left⟩ := runEntered twice.barred.sound moves entered
  cases found₃.symm.trans here
  exact ((runBarred twice.barred quiet).late found₃ late).resolve_left left

/-! ### After a stop -/

structure Ceases (settings : ProverSettings) (earlier later : List Move) : Prop where
  stopped : ∀ first, first <+: later → ((start settings).run (earlier ++ first)).phase = .stopped ∧
    ((start settings).run (earlier ++ first)).waiters = []
  refused : ∀ {id : Nat} {c : Call}, ((start settings).run (earlier ++ later)).calls[id]? = some c →
    ((start settings).run earlier).calls.length ≤ id → c.stage = .queued ∨ c.Refused
  ends : ∀ {id : Nat} {c : Call}, ((start settings).run (earlier ++ later)).calls[id]? = some c →
    ((start settings).run earlier).calls.length ≤ id →
      ∃ c', ((start settings).run (earlier ++ later)).settle.calls[id]? = some c' ∧ c'.job = c.job ∧
        c'.Refused
  unregistered : ∀ {id n : Nat}, (start settings).Numbered (earlier ++ later) id n →
    id < ((start settings).run earlier).calls.length
  unwritten : ∀ {request : Request}, request ∈ ((start settings).run (earlier ++ later)).written →
    ∃ id c, id < ((start settings).run earlier).calls.length ∧
      (start settings).Numbered (earlier ++ later) id request.number ∧
        ((start settings).run (earlier ++ later)).calls[id]? = some c ∧
          request.command = c.job.command settings.fileName

theorem startAttended (settings : ProverSettings) : (start settings).Attended := by
  intro id n c found
  cases found

theorem runAttended (sound : s.desk.Sound) (attended : s.Attended) (moves : List Move) :
    (s.run moves).Attended := by
  induction moves generalizing s with
  | nil => exact attended
  | cons m moves ih => exact ih (moveSound sound m) (moveAttended sound attended m)

theorem runKept (keeps : s.Keeps count) (moves : List Move) : (s.run moves).Keeps count := by
  induction moves generalizing s with
  | nil => exact keeps
  | cons m moves ih => exact ih (moveKeeps keeps m)

theorem runEndingFrom (settings : ProverSettings)
    (stopped : ((start settings).run moves).phase = .stopped) :
    ((start settings).run moves).Ending ((start settings).run moves).calls.length
      settings.capacity where
  barred :=
    ⟨runSound (startSound settings) moves,runStopped settings stopped,fun found late =>
      absurd (List.getElem?_eq_some_iff.mp found).1 (Nat.not_lt.mpr late)⟩
  attended := runAttended (startSound settings) (startAttended settings) moves
  keeps := runKept (startKeeps settings) moves

theorem ceases {settings : ProverSettings} {earlier later : List Move}
    (stopped : ((start settings).run earlier).phase = .stopped)
    (quiet : Quiet later) : Ceases settings earlier later := by
  have ending := runEndingFrom settings stopped
  have after := runEnding ending quiet
  have closed : ∀ first, first <+: later → ((start settings).run (earlier ++ first)).Shut := by
    intro first within
    rw [runAppend]
    exact runShut ending.barred.shut fun m mem => quiet m (within.subset mem)
  have unregistered : ∀ {id n}, (start settings).Numbered (earlier ++ later) id n →
      id < ((start settings).run earlier).calls.length := by
    rintro id n ⟨before, within, registered⟩
    rcases List.prefix_or_prefix_of_prefix within (List.prefix_append earlier later) with inside | beyond
    · obtain ⟨rest, same⟩ := prefixRun (s := start settings) inside
      have sound := runSound (startSound settings) before
      obtain ⟨c, found, _⟩ := sound.owned registered
      obtain ⟨_, found, _⟩ := runBecomes sound rest found
      rw [same]
      exact (List.getElem?_eq_some_iff.mp found).1
    · obtain ⟨first, rfl⟩ := beyond
      have cleared := (closed first ((List.prefix_append_right_inj _).mp within)).table
      rw [cleared] at registered
      cases registered
  refine ⟨fun first within => ⟨(closed first within).phase,(closed first within).table⟩,?_,?_,
    unregistered,?_⟩
  · intro id c found late
    rw [runAppend] at found
    exact after.barred.late found late
  · intro id c found late
    rw [runAppend] at found ⊢
    have room : settings.capacity ≠ 0 := Nat.one_le_iff_ne_zero.mp (Nat.le_max_right ..)
    exact settleRefuses after room late found
  · intro request mem
    obtain ⟨id, c, numbered, found, command⟩ := sentNumbered (startFresh settings) mem
    exact ⟨id,c,unregistered numbered,numbered,found,command⟩

/-- A stopped session stays stopped exactly as long as no call waits for the prover to be ready. Until
then every call that begins is refused, without a place on the table and without a request. -/
theorem stopFinal (settings : ProverSettings) (earlier later : List Move)
    (stopped : ((start settings).run earlier).phase = .stopped) :
    ((∀ first, first <+: later → ((start settings).run (earlier ++ first)).phase = .stopped) ↔
      Quiet later) ∧ (Quiet later → Ceases settings earlier later) := by
  refine ⟨?_,ceases stopped⟩
  simp only [runAppend]
  exact staysStopped (runStopped settings stopped)

theorem stopFinalWithOneSlot :
    let earlier := [.begin (.information 1 0) ⟨30000⟩,.proceed 0,.stop]
    let later := [.begin (.information 2 0) ⟨30000⟩,.begin (.check "a") ⟨30000⟩,.proceed 1]
    ((start { slots := 1 }).run earlier).phase = .stopped ∧
      Ceases { slots := 1 } earlier later := by
  intro earlier later
  have stopped : ((start { slots := 1 }).run earlier).phase = .stopped := by decide
  exact ⟨stopped,(stopFinal _ earlier later stopped).2 (by simp [Quiet, later, Move.readies])⟩

def lateReadiness : List Move :=
  [.begin .readiness ⟨30000⟩,.proceed 0,.proceed 0,.pass 30000,.expire 0]

/-- Such a call brings the session back: it is on the table, writes its request and is late. -/
theorem stopRevoked :
    let s := (start {}).run (.stop :: lateReadiness.take 3)
    (s.phase = .starting ∧ s.waiters = [(0,0)] ∧ s.written = [⟨0,.sync "exercise.lean" ""⟩] ∧
      ((start {}).run (.stop :: lateReadiness)).calls.map (·.stage) =
        [.ended (.error (Job.readiness.failure (.timeout 0 ⟨30000⟩)))]) ∧
    ¬∀ settings earlier later,
      ((start settings).run earlier).phase = .stopped → Ceases settings earlier later := by
  refine ⟨⟨rfl,rfl,rfl,rfl⟩,fun claimed => ?_⟩
  have ends := (claimed {} [.stop] [.begin .readiness ⟨30000⟩] rfl).stopped _ List.prefix_rfl
  cases ends.1

end Session
end ProofTutor
