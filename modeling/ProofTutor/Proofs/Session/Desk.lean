import ProofTutor.Session.Basic
import Mathlib.Data.List.Basic
import Mathlib.Data.List.Nodup

/-!
What one move of a session does to its calls, their numbers and who waits for a reply. A call waits
under the number that it holds, no two calls hold the same number, and every move keeps this.
-/
namespace ProofTutor

namespace Stage

def number? : Stage → Option Nat
  | .numbered n | .waiting n _ => some n
  | _ => none

def submits : Stage → Bool
  | .queued | .numbered _ | .waiting _ _ => true
  | _ => false

theorem numberedTaken {stage : Stage} {n : Nat} (number : stage.number? = some n) :
    stage ≠ .queued := by
  rintro rfl
  cases number

theorem returnedNumber {stage : Stage} (returned : stage.submits = false) :
    stage.number? = none := by
  cases stage <;> first | rfl | cases returned

end Stage

def Response.answer? : Response → Option (Nat × Except ProverFailure Reply)
  | .accepted n message => some (n,.ok { number := n, message })
  | .refused (some n) message => some (n,.error (.refused message))
  | _ => none

namespace Call

def goesOn (c : Call) (number : Nat) (last : List Message) : Except ProverFailure Reply → Stage
  | .error e => .ended (.error (c.job.failure e))
  | .ok reply =>
    match c.job with
    | .information _ _ => .ended (.ok (.reply reply))
    | job =>
      if reply.message = some Session.unchanged then .ended (.ok (job.finding last))
      else .following number {}

theorem goesOnReturned (c : Call) (number : Nat) (last : List Message)
    (result : Except ProverFailure Reply) : (c.goesOn number last result).submits = false := by
  cases result with
  | error e => rfl
  | ok reply =>
    simp only [goesOn]
    split
    · rfl
    · split <;> rfl

structure Becomes (c c' : Call) : Prop where
  job : c'.job = c.job
  queued : c'.stage = .queued → c' = c
  numbered : ∀ {n}, c'.stage = .numbered n → c.stage = .numbered n ∨ c.stage = .queued
  submits : c'.stage.submits → c.stage.submits
  reply : ∀ {result}, c.reply = some result → c'.reply = some result

theorem becomesRefl (c : Call) : c.Becomes c := ⟨rfl,fun _ => rfl,.inl,id,id⟩

theorem becomesTrans {c c' c'' : Call} (first : c.Becomes c') (second : c'.Becomes c'') :
    c.Becomes c'' := by
  refine ⟨second.job.trans first.job,?_,?_,first.submits ∘ second.submits,
    second.reply ∘ first.reply⟩
  · intro queued
    have same := second.queued queued
    exact same.trans (first.queued (same ▸ queued))
  · intro n numbered
    rcases second.numbered numbered with before | queued
    · exact first.numbered before
    · exact .inr (first.queued queued ▸ queued)

theorem returnedBecomes {c c' : Call} (returned : c'.stage.submits = false) (job : c'.job = c.job)
    (reply : c'.reply = c.reply) : c.Becomes c' := by
  refine ⟨job,?_,?_,?_,reply.trans⟩
  · intro queued
    rw [queued] at returned
    cases returned
  · intro n numbered
    rw [numbered] at returned
    cases returned
  · rw [returned]
    nofun

theorem replyBecomes {c : Call} (taken : c.stage ≠ .queued) (unanswered : c.reply = none)
    (result : Except ProverFailure Reply) : c.Becomes { c with reply := some result } :=
  ⟨rfl,fun queued => absurd queued taken,.inl,fun submits => submits,
    fun reply => by cases unanswered.symm.trans reply⟩

end Call

structure Desk where
  file : String
  listenerCapacity : Nat
  calls : List Call
  waiters : List (Nat × Nat)
  nextNumber : Nat
  written : List Request

def Session.desk (s : Session) : Desk :=
  ⟨s.file,s.listenerCapacity,s.calls,s.waiters,s.nextNumber,s.written⟩

namespace Desk

structure Sound (d : Desk) : Prop where
  owned : ∀ {n id : Nat}, (n,id) ∈ d.waiters →
    ∃ c, d.calls[id]? = some c ∧ c.stage.number? = some n ∧ c.reply = none
  below : ∀ {id n : Nat} {c : Call}, d.calls[id]? = some c → c.stage.number? = some n →
    n < d.nextNumber
  apart : ∀ {id id' n : Nat} {c c' : Call}, d.calls[id]? = some c → d.calls[id']? = some c' →
    c.stage.number? = some n → c'.stage.number? = some n → id = id'
  fresh : ∀ {id : Nat} {c : Call}, d.calls[id]? = some c → c.stage = .queued → c.reply = none
  unwritten : ∀ {request : Request} {id : Nat} {c : Call}, request ∈ d.written →
    d.calls[id]? = some c → c.stage ≠ .numbered request.number
  sent : ∀ {request : Request}, request ∈ d.written → request.number < d.nextNumber
  once : (d.written.map (·.number)).Nodup

variable {d : Desk}

theorem Sound.sameOwner (sound : d.Sound) {n id n' id' : Nat} (mem : (n,id) ∈ d.waiters)
    (mem' : (n',id') ∈ d.waiters) : n = n' ↔ id = id' := by
  obtain ⟨c, found, number, _⟩ := sound.owned mem
  obtain ⟨c', found', number', _⟩ := sound.owned mem'
  constructor
  · rintro rfl
    exact sound.apart found found' number number'
  · rintro rfl
    cases found.symm.trans found'
    exact Option.some.inj (number.symm.trans number')

theorem Sound.unregister (sound : d.Sound) {id n : Nat} {c : Call} (found : d.calls[id]? = some c)
    (number : c.stage.number? = some n) :
    d.waiters.filter (·.1 ≠ n) = d.waiters.filter (·.2 ≠ id) := by
  refine List.filter_congr ?_
  rintro ⟨m, other⟩ mem
  obtain ⟨c', found', number', _⟩ := sound.owned mem
  have same : m = n ↔ other = id := by
    constructor
    · rintro rfl
      exact sound.apart found' found number' number
    · rintro rfl
      cases found.symm.trans found'
      exact Option.some.inj (number'.symm.trans number)
  simp [same]

theorem Sound.absent (sound : d.Sound) {id : Nat} {c : Call} (found : d.calls[id]? = some c)
    (gone : c.stage.number? = none ∨ c.reply ≠ none) (n : Nat) : (n,id) ∉ d.waiters := by
  intro mem
  obtain ⟨c', found', number, unanswered⟩ := sound.owned mem
  cases found.symm.trans found'
  rcases gone with numberless | answered
  · cases numberless.symm.trans number
  · exact answered unanswered

theorem Sound.nothingToUnregister (sound : d.Sound) {id : Nat} {c : Call}
    (found : d.calls[id]? = some c) (gone : c.stage.number? = none ∨ c.reply ≠ none) :
    d.waiters.filter (·.2 ≠ id) = d.waiters := by
  refine List.filter_eq_self.mpr ?_
  rintro ⟨n, other⟩ mem
  have : other ≠ id := by
    rintro rfl
    exact sound.absent found gone n mem
  simpa

end Desk

namespace Session

variable {s : Session}

structure Answers (s : Session) (line : Response) (id n : Nat)
    (result : Except ProverFailure Reply) : Prop where
  listens : s.listens
  answer : line.answer? = some (n,result)
  registered : (n,id) ∈ s.waiters

def Closing (s : Session) (m : Move) : Prop :=
  m = .stop ∨ m = .endOutput ∧ s.listens

inductive Returns (s : Session) (id : Nat) : Move → Except ProverFailure Reply → Prop where
  | answered {c number deadline result} (found : s.calls[id]? = some c)
      (waits : c.stage = .waiting number deadline) (reply : c.reply = some result) :
      Returns s id (.proceed id) result
  | late {c number deadline} (found : s.calls[id]? = some c)
      (waits : c.stage = .waiting number deadline) (reply : c.reply = none)
      (due : deadline ≤ s.now) : Returns s id (.expire id) (.error (.timeout number c.timeout))
  | unwritten {c number} (found : s.calls[id]? = some c) (numbered : c.stage = .numbered number)
      (closed : s.inputOpen = false) :
      Returns s id (.proceed id) (.error (.unwritable "broken pipe"))
  | refused {c} (found : s.calls[id]? = some c) (queued : c.stage = .queued)
      (turn : ¬(s.free = 0 ∨ !s.isFirstQueued id)) (stopped : s.phase = .stopped) :
      Returns s id (.proceed id) (.error .closed)

inductive Follows (s : Session) (id : Nat) (c : Call) : Move → Call → Prop where
  | hears {number progress next} (stage : c.stage = .following number progress)
      (followed : progress.follow s.file (unheard s.listenerCapacity c.heard s.events).2 =
        .unfinished next) :
      Follows s id c (.proceed id) { c with
        heard := s.events.length
        stage := .following number next }
  | finishes {number progress messages} (stage : c.stage = .following number progress)
      (followed : progress.follow s.file (unheard s.listenerCapacity c.heard s.events).2 =
        .finished messages) :
      Follows s id c (.proceed id) { c with stage := .ended (.ok (c.job.finding messages)) }
  | closes {number progress} (stage : c.stage = .following number progress) :
      Follows s id c (.proceed id) { c with stage := .ended (.error (c.job.failure .closed)) }
  | late {number progress} (stage : c.stage = .following number progress) :
      Follows s id c (.expire id) { c with
        stage := .ended (.error (c.job.failure (.timeout number c.timeout))) }

namespace Follows

variable {m : Move} {id : Nat} {c c' : Call}

theorem own (followed : Follows s id c m c') : m = .proceed id ∨ m = .expire id := by
  cases followed <;> simp

theorem before (followed : Follows s id c m c') : c.stage.submits = false := by
  cases followed with
  | hears stage _ | finishes stage _ | closes stage | late stage => rw [stage]; rfl

theorem after (followed : Follows s id c m c') : c'.stage.submits = false := by
  cases followed <;> rfl

theorem job (followed : Follows s id c m c') : c'.job = c.job := by
  cases followed <;> rfl

theorem reply (followed : Follows s id c m c') : c'.reply = c.reply := by
  cases followed <;> rfl

end Follows

inductive Effect (s : Session) : Move → Desk → Prop where
  | idle {m} : Effect s m s.desk
  | begins {job timeout c} (queued : c.stage = .queued) (unanswered : c.reply = none) :
      Effect s (.begin job timeout) { s.desk with calls := s.calls ++ [c] }
  | enters {id c} (found : s.calls[id]? = some c) (queued : c.stage = .queued) :
      Effect s (.proceed id) { s.desk with
        calls := s.calls.set id { c with stage := .numbered s.nextNumber }
        waiters := s.waiters ++ [(s.nextNumber,id)]
        nextNumber := s.nextNumber + 1 }
  | writes {id c n deadline} (found : s.calls[id]? = some c) (numbered : c.stage = .numbered n) :
      Effect s (.proceed id) { s.desk with
        calls := s.calls.set id { c with stage := .waiting n deadline }
        written := s.written ++ [⟨n,c.job.command s.file⟩] }
  | returns {m id c result} (number : Nat) (found : s.calls[id]? = some c)
      (returned : Returns s id m result) :
      Effect s m { s.desk with
        calls := s.calls.set id { c with stage := c.goesOn number s.lastMessages result }
        waiters := s.waiters.filter (·.2 ≠ id) }
  | follows {m id c c'} (found : s.calls[id]? = some c) (followed : Follows s id c m c') :
      Effect s m { s.desk with calls := s.calls.set id c' }
  | answers {line n id c result} (answers : Answers s line id n result)
      (found : s.calls[id]? = some c) :
      Effect s (.receive line) { s.desk with
        calls := s.calls.set id { c with reply := some result }
        waiters := s.waiters.filter (·.2 ≠ id) }
  | shuts {m calls} (closing : s.Closing m) (each : ∀ id, calls[id]? = s.calls[id]?.map fun c =>
        if id ∈ s.waiters.map (·.2) then { c with reply := some (.error .closed) } else c) :
      Effect s m { s.desk with calls, waiters := [] }

/-! ### Moves -/

theorem modifyFound {calls : List Call} {id : Nat} {c : Call} (found : calls[id]? = some c)
    (f : Call → Call) : calls.modify id f = calls.set id (f c) := by
  rw [List.modify_eq_set_getElem?, found]
  rfl

theorem setFound {calls : List Call} {id : Nat} {c c' : Call} (found : calls[id]? = some c)
    (i : Nat) : (calls.set id c')[i]? = if i = id then some c' else calls[i]? := by
  obtain ⟨inside, _⟩ := List.getElem?_eq_some_iff.mp found
  rw [List.getElem?_set]
  by_cases same : id = i
  · subst same
    simp [inside]
  · rw [if_neg same, if_neg (Ne.symm same)]

theorem receiveAnswer {line : Response} {n : Nat} {result : Except ProverFailure Reply}
    (answer : line.answer? = some (n,result)) : s.receive line = s.answer n result := by
  cases line with
  | accepted number message => cases answer; rfl
  | refused number message =>
    cases number with
    | none => cases answer
    | some number => cases answer; rfl
  | messages batch => cases answer
  | tasks running tasks => cases answer
  | other => cases answer

theorem receiveOther {line : Response} (silent : line.answer? = none) :
    (s.receive line).desk = s.desk := by
  cases line with
  | accepted number message => cases silent
  | refused number message =>
    cases number with
    | none => rfl
    | some number => cases silent
  | messages batch => rfl
  | tasks running tasks =>
    simp only [receive]
    split <;> split <;> rfl
  | other => rfl

theorem answerUnknown {n : Nat} (unknown : ∀ id, (n,id) ∉ s.waiters)
    (result : Except ProverFailure Reply) : s.answer n result = s := by
  rw [answer]
  cases found : s.waiters.find? (·.1 == n) with
  | none => rfl
  | some waiter =>
    have mem := List.mem_of_find?_eq_some found
    have number : waiter.1 = n := by simpa using List.find?_some found
    exact absurd (number ▸ mem) (unknown waiter.2)

theorem shutEach (waiters : List (Nat × Nat)) (calls : List Call) (i : Nat) :
    (waiters.foldl (fun calls (_, id) =>
        calls.modify id fun c => { c with reply := some (.error .closed) }) calls)[i]? =
      calls[i]?.map fun c =>
        if i ∈ waiters.map (·.2) then { c with reply := some (.error .closed) } else c := by
  induction waiters generalizing calls with
  | nil => simp
  | cons waiter waiters ih =>
    obtain ⟨n, id⟩ := waiter
    rw [List.foldl_cons, ih, List.getElem?_modify]
    cases calls[i]? with
    | none => rfl
    | some c => by_cases same : id = i <;> by_cases later : i ∈ waiters.map (·.2) <;>
        simp [same, later, Ne.symm]

theorem offTable (sound : s.desk.Sound) {id n : Nat} {c : Call} (found : s.calls[id]? = some c)
    (number : c.stage.number? = some n) (f : Call → Call) :
    Desk.mk s.file s.listenerCapacity (s.calls.modify id f) (s.waiters.filter (·.1 ≠ n))
        s.nextNumber s.written =
      { s.desk with
        calls := s.calls.set id (f c)
        waiters := s.waiters.filter (·.2 ≠ id) } := by
  rw [modifyFound found]
  exact congrArg (Desk.mk _ _ _ · _ _) (sound.unregister found number)

theorem stayOff (sound : s.desk.Sound) {id : Nat} {c : Call} (found : s.calls[id]? = some c)
    (gone : c.stage.number? = none ∨ c.reply ≠ none) (f : Call → Call) :
    Desk.mk s.file s.listenerCapacity (s.calls.modify id f) s.waiters s.nextNumber s.written =
      { s.desk with
        calls := s.calls.set id (f c)
        waiters := s.waiters.filter (·.2 ≠ id) } := by
  rw [modifyFound found]
  exact congrArg (Desk.mk _ _ _ · _ _) (sound.nothingToUnregister found gone).symm

theorem resumeDesk (s : Session) (id n : Nat) (c : Call) (result : Except ProverFailure Reply) :
    (s.resume id c n result).desk =
      ⟨s.file,s.listenerCapacity,
        s.calls.modify id fun d => { d with stage := c.goesOn n s.lastMessages result },
        s.waiters,s.nextNumber,s.written⟩ := by
  cases result with
  | error e => rfl
  | ok reply =>
    simp only [resume, Call.goesOn]
    cases c.job with
    | information line column => rfl
    | check content | readiness =>
      simp only
      split <;> rfl

theorem Returns.leaves (sound : s.desk.Sound) {id : Nat} {m : Move}
    {result : Except ProverFailure Reply} (returned : Returns s id m result) :
    ∃ c number, s.calls[id]? = some c ∧ (s.move m).desk = { s.desk with
      calls := s.calls.set id { c with stage := c.goesOn number s.lastMessages result }
      waiters := s.waiters.filter (·.2 ≠ id) } := by
  cases returned with
  | @answered c number _ _ found waits reply =>
    refine ⟨c,number,found,?_⟩
    rw [show s.move (.proceed id) = s.resume id c number result by
      simp only [move, proceed, found, waits, reply], resumeDesk]
    exact stayOff sound found (.inr (by simp [reply])) _
  | @late c number deadline found waits reply due =>
    refine ⟨c,number,found,?_⟩
    rw [show s.move (.expire id) = (s.unregister number).endSlotted id
        (.error (c.job.failure (.timeout number c.timeout))) by
      simp [move, expire, found, waits, reply, due]]
    exact offTable sound found (by rw [waits]; rfl) _
  | @unwritten c number found numbered closed =>
    refine ⟨c,number,found,?_⟩
    rw [show s.move (.proceed id) = (s.unregister number).endSlotted id
        (.error (c.job.failure (.unwritable "broken pipe"))) by
      simp [move, proceed, write, found, numbered, closed]]
    exact offTable sound found (by rw [numbered]; rfl) _
  | @refused c found queued turn stopped =>
    refine ⟨c,0,found,?_⟩
    rw [show s.move (.proceed id) = s.setStage id (.ended (.error (c.job.failure .closed))) by
      simp only [move, proceed, found, queued, enter, if_neg turn, if_pos stopped]]
    exact stayOff sound found (.inl (by rw [queued]; rfl)) _

theorem Returns.effect (sound : s.desk.Sound) {id : Nat} {m : Move}
    {result : Except ProverFailure Reply} (returned : Returns s id m result) :
    Effect s m (s.move m).desk := by
  obtain ⟨c, number, found, same⟩ := returned.leaves sound
  rw [same]
  exact .returns number found returned

theorem enterEffect (sound : s.desk.Sound) {id : Nat} {c : Call} (found : s.calls[id]? = some c)
    (queued : c.stage = .queued) : Effect s (.proceed id) (s.move (.proceed id)).desk := by
  have same : s.move (.proceed id) = s.enter id := by simp only [move, proceed, found, queued]
  by_cases blocked : s.free = 0 ∨ !s.isFirstQueued id
  · rw [same, enter, if_pos blocked]
    exact .idle
  · by_cases stopped : s.phase = .stopped
    · exact (Returns.refused found queued blocked stopped).effect sound
    · rw [same, enter, if_neg blocked, if_neg stopped, desk, setStage, modifyFound found]
      exact .enters found queued

theorem writeEffect (sound : s.desk.Sound) {id n : Nat} {c : Call} (found : s.calls[id]? = some c)
    (numbered : c.stage = .numbered n) : Effect s (.proceed id) (s.move (.proceed id)).desk := by
  cases inputOpen : s.inputOpen with
  | false => exact (Returns.unwritten found numbered inputOpen).effect sound
  | true =>
    rw [show s.move (.proceed id) = s.write id c n by simp only [move, proceed, found, numbered],
      write, if_pos inputOpen, desk, setStage, modifyFound found]
    exact .writes found numbered

theorem followEffect {id n : Nat} {c : Call} {progress : Progress} (found : s.calls[id]? = some c)
    (stage : c.stage = .following n progress) :
    Effect s (.proceed id) (s.move (.proceed id)).desk := by
  rw [show s.move (.proceed id) = s.follow id c n progress by
    simp only [move, proceed, found, stage], follow]
  split
  · rename_i next followed
    rw [desk, modifyFound found]
    exact .follows found (.hears stage followed)
  · rename_i messages followed
    rw [desk, setStage, modifyFound found]
    exact .follows found (.finishes stage followed)
  · rw [desk, setStage, modifyFound found]
    exact .follows found (.closes stage)

theorem proceedEffect (sound : s.desk.Sound) (id : Nat) :
    Effect s (.proceed id) (s.move (.proceed id)).desk := by
  cases found : s.calls[id]? with
  | none =>
    rw [move, proceed, found]
    exact .idle
  | some c =>
    cases stage : c.stage with
    | queued => exact enterEffect sound found stage
    | numbered n => exact writeEffect sound found stage
    | waiting n deadline =>
      cases reply : c.reply with
      | none =>
        simp only [move, proceed, found, stage, reply]
        exact .idle
      | some result => exact (Returns.answered found stage reply).effect sound
    | following n progress => exact followEffect found stage
    | ended result =>
      simp only [move, proceed, found, stage]
      exact .idle

theorem expireEffect (sound : s.desk.Sound) (id : Nat) :
    Effect s (.expire id) (s.move (.expire id)).desk := by
  cases found : s.calls[id]? with
  | none =>
    rw [move, expire, found]
    exact .idle
  | some c =>
    cases stage : c.stage with
    | waiting n deadline =>
      by_cases late : deadline ≤ s.now ∧ c.reply = none
      · exact (Returns.late found stage late.2 late.1).effect sound
      · simp only [move, expire, found, stage, Option.isNone_iff_eq_none, if_neg late]
        exact .idle
    | following n progress =>
      simp only [move, expire, found, stage]
      split
      · rw [desk, setStage, modifyFound found]
        exact .follows found (.late stage)
      · exact .idle
    | queued | numbered _ | ended _ =>
      simp only [move, expire, found, stage]
      exact .idle

theorem Answers.leaves (sound : s.desk.Sound) {line : Response} {id n : Nat}
    {result : Except ProverFailure Reply} (answers : Answers s line id n result) :
    ∃ c, s.calls[id]? = some c ∧ (s.move (.receive line)).desk = { s.desk with
      calls := s.calls.set id { c with reply := some result }
      waiters := s.waiters.filter (·.2 ≠ id) } := by
  obtain ⟨c, found, number, _⟩ := sound.owned answers.registered
  refine ⟨c,found,?_⟩
  have search : s.waiters.find? (·.1 == n) = some (n,id) := by
    cases search : s.waiters.find? (·.1 == n) with
    | none => simpa using List.find?_eq_none.mp search _ answers.registered
    | some waiter =>
      obtain ⟨m, other⟩ := waiter
      obtain rfl : m = n := by simpa using List.find?_some search
      obtain rfl := (sound.sameOwner (List.mem_of_find?_eq_some search) answers.registered).mp rfl
      rfl
  rw [move, if_pos answers.listens, receiveAnswer answers.answer, Session.answer, search]
  exact offTable sound found number _

theorem receiveEffect (sound : s.desk.Sound) (line : Response) :
    Effect s (.receive line) (s.move (.receive line)).desk := by
  by_cases answers : ∃ id n result, Answers s line id n result
  · obtain ⟨id, n, result, answers⟩ := answers
    obtain ⟨c, found, same⟩ := answers.leaves sound
    rw [same]
    exact .answers answers found
  · rw [move]
    split
    · rename_i listens
      cases answer : line.answer? with
      | none =>
        rw [receiveOther answer]
        exact .idle
      | some answered =>
        rw [receiveAnswer answer, answerUnknown]
        · exact .idle
        · exact fun id registered => answers ⟨id,_,_,listens,answer,registered⟩
    · exact .idle

theorem shutEffect {m : Move} (closing : s.Closing m) : Effect s m { s.desk with
    calls := s.shut.calls
    waiters := [] } :=
  .shuts closing (shutEach s.waiters s.calls)

theorem moveEffect (sound : s.desk.Sound) (m : Move) : Effect s m (s.move m).desk := by
  cases m with
  | begin job timeout => exact .begins rfl rfl
  | proceed id => exact proceedEffect sound id
  | expire id => exact expireEffect sound id
  | receive line => exact receiveEffect sound line
  | pass milliseconds => exact .idle
  | endOutput =>
    rw [move]
    split
    · rename_i listens
      exact shutEffect (.inr ⟨rfl,listens⟩)
    · exact .idle
  | closeInput => exact .idle
  | stop => exact shutEffect (.inl rfl)

end Session
end ProofTutor
