import ProofTutor.Proofs.Session.Replies

/-!
What a check returns that is answered and does not lag behind: the last batch of messages since the
check began, up to the report that ends it. The batch is one of the work on this file if one came
between the reports that the prover runs and that it is idle; else it is what came before.
-/
namespace ProofTutor

namespace SessionEvent

def starts : SessionEvent → Bool
  | .tasks true | .phase .active => true
  | _ => false

def idles : SessionEvent → Bool
  | .tasks false | .phase .ready => true
  | _ => false

def closes : SessionEvent → Bool
  | .exited | .phase .stopped => true
  | _ => false

def batch? : SessionEvent → Option (List Message)
  | .messages batch => some batch
  | _ => none

end SessionEvent

def lastAbout (file : String) (old : List Message) (events : List SessionEvent) : List Message :=
  ((events.filterMap SessionEvent.batch?).getLast?.map (Progress.about file)).getD old

structure Work (events before during : List SessionEvent) : Prop where
  split : ∃ start idle rest, events = before ++ start :: (during ++ idle :: rest) ∧
    start.starts ∧ idle.idles
  waits : ∀ event ∈ before, event.starts = false
  works : ∀ event ∈ during, event.idles = false
  lives : ∀ event ∈ before ++ during, event.closes = false

section Batches

variable {file : String} {old : List Message} {before during : List SessionEvent}

theorem lastAboutCons (file : String) (old : List Message) (event : SessionEvent)
    (events : List SessionEvent) : lastAbout file old (event :: events) =
      lastAbout file ((event.batch?.map (Progress.about file)).getD old) events := by
  cases batch : event.batch? with
  | none =>
    rw [lastAbout, List.filterMap_cons_none batch]
    rfl
  | some batch' =>
    rw [lastAbout, List.filterMap_cons_some batch, List.getLast?_cons, lastAbout]
    cases (events.filterMap SessionEvent.batch?).getLast? <;> rfl

theorem lastAboutAppend : lastAbout file old (before ++ during) =
    lastAbout file (lastAbout file old before) during := by
  rw [lastAbout, List.filterMap_append, List.getLast?_append, lastAbout, lastAbout]
  cases (during.filterMap SessionEvent.batch?).getLast? <;> rfl

theorem lastAboutDuring : lastAbout file old (before ++ during) = lastAbout file old during ↔
    (∃ batch, .messages batch ∈ during) ∨ lastAbout file old before = old := by
  rw [lastAboutAppend]
  cases last : (during.filterMap SessionEvent.batch?).getLast? with
  | some batch =>
    obtain ⟨event, mem, same⟩ := List.mem_filterMap.mp (List.mem_of_getLast? last)
    cases event with
    | messages batch' =>
      simp only [lastAbout, last, Option.map_some, Option.getD_some, true_iff]
      exact .inl ⟨batch',mem⟩
    | _ => cases same
  | none =>
    have silent : ∀ batch, .messages batch ∉ during := by
      intro batch mem
      have empty := List.filterMap_eq_nil_iff.mp (List.getLast?_eq_none_iff.mp last)
      cases empty _ mem
    simp [lastAbout, last, silent]

end Batches

namespace Progress

variable {file : String} {messages : List Message} {events : List SessionEvent}

def hear (file : String) (p : Progress) (event : SessionEvent) : Progress where
  started := p.started || event.starts
  messages := (event.batch?.map (about file)).getD p.messages

theorem followCons (file : String) (p : Progress) (event : SessionEvent)
    (events : List SessionEvent) : p.follow file (event :: events) =
      if event.closes then .closed
      else if event.idles && p.started then .finished p.messages
      else (p.hear file event).follow file events := by
  obtain ⟨started, messages⟩ := p
  cases event with
  | messages batch => cases started <;> rfl
  | phase phase => cases phase <;> cases started <;> rfl
  | tasks running => cases running <;> cases started <;> rfl
  | exited => rfl

theorem followAppend (file : String) (p : Progress) (first second : List SessionEvent) :
    p.follow file (first ++ second) = match p.follow file first with
      | .unfinished next => next.follow file second
      | ended => ended := by
  induction first generalizing p with
  | nil => rfl
  | cons event first ih =>
    rw [List.cons_append, followCons, followCons]
    split
    · rfl
    · split
      · rfl
      · exact ih _

theorem followStarted {old : List Message}
    (followed : ({ started := true, messages := old } : Progress).follow file events =
      .finished messages) : ∃ during idle rest, events = during ++ idle :: rest ∧ idle.idles ∧
        (∀ event ∈ during, event.idles = false ∧ event.closes = false) ∧
          messages = lastAbout file old during := by
  induction events generalizing old with
  | nil => cases followed
  | cons event events ih =>
    rw [followCons, Bool.and_true] at followed
    split at followed
    · cases followed
    · rename_i closes
      split at followed
      · rename_i idles
        cases followed
        exact ⟨[],event,events,rfl,idles,by simp,rfl⟩
      · rename_i idles
        obtain ⟨during, idle, rest, rfl, ends, busy, rfl⟩ := ih followed
        refine ⟨event :: during,idle,rest,rfl,ends,?_,(lastAboutCons ..).symm⟩
        exact List.forall_mem_cons.mpr ⟨⟨by simpa using idles,by simpa using closes⟩,busy⟩

theorem startsQuiet {event : SessionEvent} (starts : event.starts) : event.batch? = none := by
  cases event with
  | messages batch => cases starts
  | _ => rfl

theorem followFinished {old : List Message}
    (followed : ({ messages := old } : Progress).follow file events = .finished messages) :
    ∃ before during, Work events before during ∧
      messages = lastAbout file old (before ++ during) := by
  induction events generalizing old with
  | nil => cases followed
  | cons event events ih =>
    rw [followCons, Bool.and_false, if_neg Bool.false_ne_true] at followed
    split at followed
    · cases followed
    · rename_i closes
      cases starts : event.starts with
      | true =>
        rw [hear, starts, startsQuiet starts] at followed
        obtain ⟨during, idle, rest, rfl, ends, busy, rfl⟩ := followStarted followed
        refine ⟨[],during,⟨⟨event,idle,rest,rfl,starts,ends⟩,by simp,?_,?_⟩,rfl⟩
        · exact fun event mem => (busy event mem).1
        · exact fun event mem => (busy event mem).2
      | false =>
        rw [hear, starts] at followed
        obtain ⟨before, during, work, rfl⟩ := ih followed
        obtain ⟨start, idle, rest, rfl, begins, ends⟩ := work.split
        refine ⟨event :: before,during,⟨⟨start,idle,rest,rfl,begins,ends⟩,?_,work.works,?_⟩,
          (lastAboutCons ..).symm⟩
        · exact List.forall_mem_cons.mpr ⟨starts,work.waits⟩
        · exact List.forall_mem_cons.mpr ⟨by simpa using closes,work.lives⟩

end Progress

namespace Session

variable {s : Session} {m : Move} {id : Nat}

/-! ### Events -/

theorem answerEvents (s : Session) (n : Nat) (result : Except ProverFailure Reply) :
    (s.answer n result).events = s.events := by
  rw [answer]
  split <;> rfl

theorem receiveEvents (s : Session) (line : Response) : s.events <+: (s.receive line).events := by
  cases line with
  | accepted number message => exact (answerEvents s number _).symm ▸ List.prefix_rfl
  | refused number message =>
    cases number with
    | none => exact List.prefix_rfl
    | some number => exact (answerEvents s number _).symm ▸ List.prefix_rfl
  | messages batch => exact List.prefix_append _ _
  | tasks running tasks =>
    refine List.IsPrefix.trans ?_ (List.prefix_append _ _)
    generalize (if running then Phase.active else .ready) = phase
    show s.events <+: (if s.phase = phase then s else { s with phase }.emit (.phase phase)).events
    split
    · exact List.prefix_rfl
    · exact List.prefix_append _ _
  | other => exact List.prefix_rfl

theorem shutEvents (s : Session) : s.events <+: s.shut.events :=
  (List.prefix_append _ _).trans (List.prefix_append _ _)

theorem enterEvents (s : Session) (id : Nat) : (s.enter id).events = s.events := by
  rw [enter]
  split
  · rfl
  · split
    · split <;> rfl
    · rfl

theorem resumeEvents (s : Session) (id : Nat) (c : Call) (n : Nat)
    (result : Except ProverFailure Reply) : (s.resume id c n result).events = s.events := by
  cases result with
  | error e => rfl
  | ok reply =>
    simp only [resume]
    split
    · rfl
    · split <;> rfl

theorem proceedEvents (s : Session) (id : Nat) : (s.proceed id).events = s.events := by
  rw [proceed]
  split
  · rfl
  · split
    · exact enterEvents s id
    · rw [write]
      split <;> rfl
    · split
      · exact resumeEvents ..
      · rfl
    · rw [follow]
      split <;> rfl
    · rfl

theorem expireEvents (s : Session) (id : Nat) : (s.expire id).events = s.events := by
  rw [expire]
  split
  · rfl
  · simp only
    split
    · split <;> rfl
    · split <;> rfl
    · rfl

theorem moveEvents (s : Session) (m : Move) : s.events <+: (s.move m).events := by
  cases m with
  | begin job timeout => exact List.prefix_rfl
  | proceed id => exact (proceedEvents s id).symm ▸ List.prefix_rfl
  | expire id => exact (expireEvents s id).symm ▸ List.prefix_rfl
  | receive line =>
    rw [move]
    split
    · exact receiveEvents s line
    · exact List.prefix_rfl
  | pass milliseconds => exact List.prefix_rfl
  | endOutput =>
    rw [move]
    split
    · exact shutEvents s
    · exact List.prefix_rfl
  | closeInput => exact List.prefix_rfl
  | stop => exact shutEvents s

/-! ### Checks -/

def since (s : Session) (heard : Nat) : List SessionEvent :=
  s.events.drop heard

inductive Attends (s : Session) (heard : Nat) (c : Call) : Prop where
  | submits (submits : c.stage.submits) (same : c.heard = heard)
  | follows {number progress} (stage : c.stage = .following number progress)
      (later : heard ≤ c.heard) (known : c.heard ≤ s.events.length)
      (followed : ({} : Progress).follow s.file ((s.since heard).take (c.heard - heard)) =
        .unfinished progress)
  | finished {messages} (stage : c.stage = .ended (.ok (.messages messages)))
      (followed : ({} : Progress).follow s.file (s.since heard) = .finished messages)
  | unchanged {result reply} (stage : c.stage = .ended result) (answer : c.reply = some (.ok reply))
      (same : reply.message = some Session.unchanged)
  | failed {e} (stage : c.stage = .ended (.error e))

def KeepsUp (s : Session) (id : Nat) : Prop :=
  ∀ {c number progress}, s.calls[id]? = some c → c.stage = .following number progress →
    (unheard s.listenerCapacity c.heard s.events).1 = 0

theorem runEvents (s : Session) (moves : List Move) : s.events <+: (s.run moves).events := by
  induction moves generalizing s with
  | nil => exact List.prefix_rfl
  | cons m moves ih => exact (moveEvents s m).trans (ih _)

theorem keepsUpWithRoom (sound : s.desk.Sound) {moves between : List Move}
    (room : (s.run moves).events.length ≤ s.listenerCapacity) (within : between <+: moves) :
    (s.run between).KeepsUp id := by
  intro c number progress found stage
  obtain ⟨later, rfl⟩ := within
  have grows := (runEvents (s.run between) later).length_le
  rw [← runAppend] at grows
  rw [(runKeeps sound between).2]
  show ((s.run between).events.drop c.heard).length - s.listenerCapacity = 0
  rw [List.length_drop]
  omega

theorem keptUp {capacity heard : Nat} {events : List SessionEvent}
    (kept : (unheard capacity heard events).1 = 0) :
    (unheard capacity heard events).2 = events.drop heard := by
  have unlost : (events.drop heard).length - capacity = 0 := kept
  rw [unheard, unlost]
  rfl

theorem sinceKnown {heard known : Nat} (later : heard ≤ known) :
    (s.since heard).take (known - heard) ++ s.events.drop known = s.since heard := by
  have rest : s.events.drop known = (s.since heard).drop (known - heard) := by
    rw [since, List.drop_drop, Nat.add_sub_cancel' later]
  rw [rest, List.take_append_drop]

theorem attendsSubmits {heard : Nat} {c : Call} (attends : Attends s heard c)
    (submits : c.stage.submits) : c.heard = heard := by
  cases attends with
  | submits _ same => exact same
  | follows stage _ _ _ | finished stage _ | unchanged stage _ _ | failed stage =>
    rw [stage] at submits
    cases submits

theorem attendsFollows {heard number : Nat} {c : Call} {progress : Progress}
    (attends : Attends s heard c) (stage : c.stage = .following number progress) :
    heard ≤ c.heard ∧ c.heard ≤ s.events.length ∧
      ({} : Progress).follow s.file ((s.since heard).take (c.heard - heard)) = .unfinished progress := by
  cases attends with
  | submits submits same =>
    rw [stage] at submits
    cases submits
  | follows other later known followed =>
    cases stage.symm.trans other
    exact ⟨later,known,followed⟩
  | finished other _ | unchanged other _ _ | failed other => cases stage.symm.trans other

theorem replyAttends {heard : Nat} {c : Call} (attends : Attends s heard c)
    (unanswered : c.reply = none) (result : Except ProverFailure Reply) :
    Attends s heard { c with reply := some result } := by
  cases attends with
  | submits submits same => exact .submits submits same
  | follows stage later known followed => exact .follows stage later known followed
  | finished stage followed => exact .finished stage followed
  | unchanged stage answer same => cases unanswered.symm.trans answer
  | failed stage => exact .failed stage

theorem returnedSubmits {c : Call} {result : Except ProverFailure Reply}
    (found : s.calls[id]? = some c) (returned : Returns s id m result) : c.stage.submits := by
  cases returned with
  | answered found' stage _ | late found' stage _ _ | unwritten found' stage _
  | refused found' stage _ _ =>
    cases found.symm.trans found'
    rw [stage]
    rfl

theorem returnedReply {c : Call} {reply : Reply} (found : s.calls[id]? = some c)
    (returned : Returns s id m (.ok reply)) : c.reply = some (.ok reply) := by
  cases returned with
  | answered found' waits reply =>
    cases found.symm.trans found'
    exact reply

theorem returnsAttends {heard number : Nat} {content : String} {c : Call}
    {result : Except ProverFailure Reply} (found : s.calls[id]? = some c)
    (job : c.job = .check content) (known : heard ≤ s.events.length) (attends : Attends s heard c)
    (returned : Returns s id m result) :
    Attends s heard { c with stage := c.goesOn number s.lastMessages result } := by
  cases result with
  | error e => exact .failed rfl
  | ok reply =>
    have answer := returnedReply found returned
    by_cases same : reply.message = some unchanged
    · have stage : c.goesOn number s.lastMessages (.ok reply) =
          .ended (.ok (.messages s.lastMessages)) := by
        simp only [Call.goesOn, job, if_pos same, Job.finding]
      exact .unchanged stage answer same
    · have stage : c.goesOn number s.lastMessages (.ok reply) = .following number {} := by
        simp only [Call.goesOn, job, if_neg same]
      have here := attendsSubmits attends (returnedSubmits found returned)
      refine .follows stage (Nat.le_of_eq here.symm) (here ▸ known) ?_
      show Progress.follow s.file {} ((s.since heard).take (c.heard - heard)) = _
      rw [here, Nat.sub_self, List.take_zero]
      rfl

theorem followsAttends {heard : Nat} {content : String} {c c' : Call}
    (found : s.calls[id]? = some c) (job : c.job = .check content)
    (keeps : m = .proceed id → s.KeepsUp id) (attends : Attends s heard c)
    (followed : Follows s id c m c') : Attends s heard c' := by
  have news {number : Nat} {progress : Progress} {h : Heard} (own : m = .proceed id)
      (stage : c.stage = .following number progress)
      (followed : progress.follow s.file (unheard s.listenerCapacity c.heard s.events).2 = h) :
      ({} : Progress).follow s.file (s.since heard) = h := by
    obtain ⟨later, known, before⟩ := attendsFollows attends stage
    rw [← sinceKnown later, Progress.followAppend, before]
    rwa [keptUp (keeps own found stage)] at followed
  cases followed with
  | @hears number progress next stage followed =>
    obtain ⟨later, known, _⟩ := attendsFollows attends stage
    have heardAll : ({} : Progress).follow s.file
        ((s.since heard).take (s.events.length - heard)) = .unfinished next := by
      rw [List.take_of_length_le (by simp [since])]
      exact news rfl stage followed
    exact .follows rfl (Nat.le_trans later known) (Nat.le_refl _) heardAll
  | finishes stage followed =>
    exact .finished (by simp only [job, Job.finding]) (news rfl stage followed)
  | closes stage | late stage => exact .failed rfl

theorem goesAttends {heard : Nat} {content : String} {c c' : Call} {d : Desk}
    (sound : s.desk.Sound) (found : s.calls[id]? = some c) (goes : Goes s m d id c c')
    (job : c.job = .check content) (known : heard ≤ s.events.length)
    (keeps : m = .proceed id → s.KeepsUp id) (attends : Attends s heard c) :
    Attends s heard c' := by
  cases goes with
  | stays => exact attends
  | enters own queued enrolled =>
    have same := attendsSubmits attends (by rw [queued]; rfl)
    exact .submits rfl same
  | writes numbered =>
    have same := attendsSubmits attends (by rw [numbered]; rfl)
    exact .submits rfl same
  | returns returned off => exact returnsAttends found job known attends returned
  | follows followed => exact followsAttends found job keeps attends followed
  | answered received answers off =>
    exact replyAttends attends (registeredFound sound answers.registered found).2 _
  | closed closing registered off =>
    exact replyAttends attends (registeredFound sound registered found).2 _

theorem attendsLater {heard : Nat} {c : Call} {after : Session} (known : heard ≤ s.events.length)
    (events : s.events <+: after.events) (file : after.file = s.file) (attends : Attends s heard c) :
    Attends after heard c := by
  obtain ⟨more, events⟩ := events
  have since' : after.since heard = s.since heard ++ more := by
    rw [since, ← events, List.drop_append_of_le_length known]
    rfl
  cases attends with
  | submits submits same => exact .submits submits same
  | follows stage later here followed =>
    refine .follows stage later (Nat.le_trans here (by rw [← events]; simp)) ?_
    rw [since', file, List.take_append_of_le_length]
    · exact followed
    · rw [since, List.length_drop]
      omega
  | finished stage followed =>
    refine .finished stage ?_
    rw [since', file, Progress.followAppend, followed]
  | unchanged stage answer same => exact .unchanged stage answer same
  | failed stage => exact .failed stage

theorem runAttends {heard : Nat} {content : String} {c : Call} (sound : s.desk.Sound)
    (moves : List Move) (found : s.calls[id]? = some c) (job : c.job = .check content)
    (known : heard ≤ s.events.length)
    (keeps : ∀ between, between ++ [.proceed id] <+: moves → (s.run between).KeepsUp id)
    (attends : Attends s heard c) :
    ∃ c', (s.run moves).calls[id]? = some c' ∧ Attends (s.run moves) heard c' := by
  induction moves generalizing s c with
  | nil => exact ⟨c,found,attends⟩
  | cons m moves ih =>
    obtain ⟨next, after, goes⟩ := (moveEffect sound m).goes found
    have grows := moveEvents s m
    have now : Attends s heard next := by
      refine goesAttends sound found goes job known ?_ attends
      rintro rfl
      exact keeps [] (List.prefix_append _ _)
    refine ih (moveSound sound m) after ((goes.becomes sound found).job.trans job)
      (Nat.le_trans known grows.length_le) ?_ (attendsLater known grows (runKeeps sound [m]).1 now)
    intro between within
    exact keeps (m :: between) (List.cons_prefix_cons.mpr ⟨rfl,within⟩)

structure Completes (s : Session) (content : String) (timeout : Duration) (later : List Move)
    (messages : List Message) : Prop where
  keeps : ∀ between, between ++ [.proceed s.calls.length] <+: later →
    (s.run (.begin (.check content) timeout :: between)).KeepsUp s.calls.length
  returns : ∃ c reply, (s.run (.begin (.check content) timeout :: later)).calls[s.calls.length]? =
    some c ∧ c.stage = .ended (.ok (.messages messages)) ∧ c.reply = some (.ok reply) ∧
      reply.message ≠ some unchanged

/-- The messages that a check returns are the last batch of its work on the file, exactly if there is
such a batch or the last batch before the prover began is not about the file. -/
theorem checkMessages (settings : ProverSettings) (earlier : List Move) (content : String)
    (timeout : Duration) (later : List Move) (messages : List Message)
    (completes : ((start settings).run earlier).Completes content timeout later messages) :
    ∃ before during, Work (((start settings).run
        (earlier ++ .begin (.check content) timeout :: later)).since
          ((start settings).run earlier).events.length) before during ∧
      messages = lastAbout settings.fileName [] (before ++ during) ∧
        (messages = lastAbout settings.fileName [] during ↔
          (∃ batch, .messages batch ∈ during) ∨ lastAbout settings.fileName [] before = []) := by
  have sound := runSound (startSound settings) earlier
  have file := (runKeeps (startSound settings) earlier).1
  rw [runAppend]
  generalize (start settings).run earlier = s at sound file completes
  obtain ⟨c, reply, found, ended, answer, changed⟩ := completes.returns
  obtain ⟨c', same, attends⟩ := runAttends (moveSound sound (.begin (.check content) timeout)) later
    (List.getElem?_concat_length ..) rfl (Nat.le_refl s.events.length) completes.keeps
    (.submits rfl rfl)
  cases found.symm.trans same
  have file' := (runKeeps sound (.begin (.check content) timeout :: later)).1.trans file
  cases attends with
  | submits submits _ =>
    rw [ended] at submits
    cases submits
  | follows stage _ _ _ | failed stage => cases ended.symm.trans stage
  | unchanged _ answer' same =>
    cases answer.symm.trans answer'
    exact absurd same changed
  | finished stage followed =>
    cases ended.symm.trans stage
    rw [show (s.move _).run later = s.run (_ :: later) from rfl, file'] at followed
    obtain ⟨before, during, work, rfl⟩ := Progress.followFinished followed
    exact ⟨before,during,work,rfl,lastAboutDuring⟩

deriving instance DecidableEq for Stage, Call

/-- A batch comes when the check has begun and the prover has not, and none after it. -/
def lateBatch : List Move :=
  [.proceed 0,.proceed 0,.receive (.messages [⟨"exercise.lean",1,0,.error,"","old"⟩]),
    .receive (.accepted 0 (some "file invalidated")),.receive (.tasks true []),
    .receive (.tasks false []),.proceed 0,.proceed 0]

theorem lateBatchCompletes : ((start {}).run []).Completes "b" ⟨30000⟩ lateBatch
    [⟨"exercise.lean",1,0,.error,"","old"⟩] := by
  refine ⟨?_,?_⟩
  · intro between within c number progress
    have room : ((start {}).run (.begin (.check "b") ⟨30000⟩ :: lateBatch)).events.length ≤
        (start {}).listenerCapacity := by decide +kernel
    exact keepsUpWithRoom (startSound {}) room
      (List.cons_prefix_cons.mpr ⟨rfl,(List.prefix_append _ _).trans within⟩)
  · have returned : ((start {}).run (.begin (.check "b") ⟨30000⟩ :: lateBatch)).calls[0]? =
        some ⟨.check "b",⟨30000⟩,30000,0,
          .ended (.ok (.messages [⟨"exercise.lean",1,0,.error,"","old"⟩])),
          some (.ok ⟨0,some "file invalidated"⟩)⟩ := by decide +kernel
    exact ⟨_,_,returned,rfl,rfl,by decide⟩

theorem checkMessagesOfLateBatch : ((start {}).run []).Completes "b" ⟨30000⟩ lateBatch
    [⟨"exercise.lean",1,0,.error,"","old"⟩] ∧
      ∃ before during, Work (((start {}).run ([] ++ .begin (.check "b") ⟨30000⟩ :: lateBatch)).since
        ((start {}).run []).events.length) before during ∧
        [⟨"exercise.lean",1,0,.error,"","old"⟩] = lastAbout "exercise.lean" [] (before ++ during) ∧
          ([⟨"exercise.lean",1,0,.error,"","old"⟩] = lastAbout "exercise.lean" [] during ↔
            (∃ batch, .messages batch ∈ during) ∨ lastAbout "exercise.lean" [] before = []) :=
  ⟨lateBatchCompletes,checkMessages {} [] "b" ⟨30000⟩ lateBatch _ lateBatchCompletes⟩

theorem checkMessagesOfEarlierFile : ¬∀ settings earlier content timeout later messages,
    ((start settings).run earlier).Completes content timeout later messages →
      ∀ before during, Work (((start settings).run
        (earlier ++ .begin (.check content) timeout :: later)).since
          ((start settings).run earlier).events.length) before during →
        messages = lastAbout settings.fileName [] during := by
  intro claimed
  have work : Work (((start {}).run ([] ++ .begin (.check "b") ⟨30000⟩ :: lateBatch)).since
      ((start {}).run []).events.length) [.messages [⟨"exercise.lean",1,0,.error,"","old"⟩]]
        [.tasks true] :=
    ⟨⟨.phase .active,.phase .ready,[.tasks false],by decide +kernel,rfl,rfl⟩,by decide,by decide,
      by decide⟩
  cases claimed {} [] "b" ⟨30000⟩ lateBatch _ lateBatchCompletes _ _ work

end Session
end ProofTutor
