import Mathlib.Data.List.Induction
import ProofTutor.Proofs.Session.Table

/-!
Replies in every run of a session, with calls, lines from the prover, late calls and the end of the
output in any order. A line with the number of a call on the table is brought to that call, which stays
there until then; a submission gets the line with its own number and no other, each line is for one
submission and each submission gets one answer, and what has returned is not on the table again.
-/
namespace ProofTutor.Session

variable {s : Session} {m : Move} {id n : Nat} {moves : List Move}

/-! ### Runs -/

theorem runAppend (s : Session) (first second : List Move) :
    s.run (first ++ second) = (s.run first).run second :=
  List.foldl_append

theorem runSnoc (s : Session) (moves : List Move) (m : Move) :
    s.run (moves ++ [m]) = (s.run moves).move m :=
  runAppend s moves [m]

theorem prefixRun {earlier : List Move} (within : earlier <+: moves) :
    ∃ later, s.run moves = (s.run earlier).run later := by
  obtain ⟨later, rfl⟩ := within
  exact ⟨later,runAppend s earlier later⟩

theorem moveSound (sound : s.desk.Sound) (m : Move) : (s.move m).desk.Sound :=
  (moveEffect sound m).sound sound

theorem runSound (sound : s.desk.Sound) (moves : List Move) : (s.run moves).desk.Sound := by
  induction moves generalizing s with
  | nil => exact sound
  | cons m moves ih => exact ih (moveSound sound m)

theorem startSound (settings : ProverSettings) : (start settings).desk.Sound := by
  refine ⟨?_,?_,?_,?_,?_,?_,List.nodup_nil⟩ <;> simp [desk, start]

theorem runBecomes (sound : s.desk.Sound) (moves : List Move) {c : Call}
    (found : s.calls[id]? = some c) : ∃ c', (s.run moves).calls[id]? = some c' ∧ c.Becomes c' := by
  induction moves generalizing s c with
  | nil => exact ⟨c,found,c.becomesRefl⟩
  | cons m moves ih =>
    obtain ⟨next, after, first⟩ := (moveEffect sound m).becomes sound found
    obtain ⟨last, end', rest⟩ := ih (moveSound sound m) after
    exact ⟨last,end',Call.becomesTrans first rest⟩

/-! ### Numbers -/

structure Taken (s : Session) (id n : Nat) : Prop where
  below : n < s.nextNumber
  entered : ∃ c, s.calls[id]? = some c ∧ c.stage ≠ .queued
  only : ∀ {id' n'}, (n',id') ∈ s.waiters → (id = id' ↔ n = n')

theorem registeredTaken (sound : s.desk.Sound) (registered : (n,id) ∈ s.waiters) :
    s.Taken id n := by
  obtain ⟨c, found, number, _⟩ := sound.owned registered
  exact ⟨sound.below found number,⟨c,found,Stage.numberedTaken number⟩,
    fun other => (sound.sameOwner registered other).symm⟩

theorem becomesEntered {c c' : Call} (becomes : c.Becomes c') (entered : c.stage ≠ .queued) :
    c'.stage ≠ .queued :=
  fun queued => entered (becomes.queued queued ▸ queued)

theorem moveTaken (sound : s.desk.Sound) (m : Move) (taken : s.Taken id n) :
    (s.move m).Taken id n := by
  have effect := moveEffect sound m
  obtain ⟨c, found, entered⟩ := taken.entered
  obtain ⟨c', after, becomes⟩ := effect.becomes sound found
  refine ⟨Nat.lt_of_lt_of_le taken.below effect.next.1,⟨c',after,becomesEntered becomes entered⟩,?_⟩
  intro id' n' registered
  rcases effect.table registered with before | ⟨next, _, b, there, queued, _⟩
  · exact taken.only before
  · constructor
    · rintro rfl
      cases found.symm.trans there
      exact absurd queued entered
    · rintro rfl
      exact absurd next (Nat.ne_of_lt taken.below)

theorem runTaken (sound : s.desk.Sound) (moves : List Move) (taken : s.Taken id n) :
    (s.run moves).Taken id n := by
  induction moves generalizing s with
  | nil => exact taken
  | cons m moves ih => exact ih (moveSound sound m) (moveTaken sound m taken)

def Numbered (s : Session) (moves : List Move) (id n : Nat) : Prop :=
  ∃ earlier, earlier <+: moves ∧ (n,id) ∈ (s.run earlier).waiters

theorem numberedSnoc (numbered : s.Numbered moves id n) (m : Move) :
    s.Numbered (moves ++ [m]) id n := by
  obtain ⟨earlier, within, registered⟩ := numbered
  exact ⟨earlier,within.trans (List.prefix_append _ _),registered⟩

theorem numberedTaken (sound : s.desk.Sound) (numbered : s.Numbered moves id n) :
    (s.run moves).Taken id n := by
  obtain ⟨earlier, ⟨later, rfl⟩, registered⟩ := numbered
  rw [runAppend]
  exact runTaken (runSound sound earlier) later
    (registeredTaken (runSound sound earlier) registered)

theorem numberedDistinct (sound : s.desk.Sound) {id' n' : Nat} (numbered : s.Numbered moves id n)
    (numbered' : s.Numbered moves id' n') : id = id' ↔ n = n' := by
  obtain ⟨earlier, within, registered⟩ := numbered
  obtain ⟨earlier', within', registered'⟩ := numbered'
  rcases List.prefix_or_prefix_of_prefix within within' with before | before
  · exact (numberedTaken sound ⟨earlier,before,registered⟩).only registered'
  · have taken := numberedTaken sound ⟨earlier',before,registered'⟩
    exact ⟨fun same => (taken.only registered).mp same.symm |>.symm,
      fun same => (taken.only registered).mpr same.symm |>.symm⟩

theorem nextBound (sound : s.desk.Sound) (moves : List Move) :
    (s.run moves).nextNumber ≤ s.nextNumber + moves.length := by
  induction moves generalizing s with
  | nil => exact Nat.le_refl _
  | cons m moves ih =>
    have step := (moveEffect sound m).next.2
    have rest := ih (moveSound sound m)
    rw [List.length_cons]
    simp only [desk] at step
    show ((s.move m).run moves).nextNumber ≤ _
    omega

structure Fresh (s : Session) : Prop where
  sound : s.desk.Sound
  calls : s.calls = []
  next : s.nextNumber = 0
  written : s.written = []

theorem startFresh (settings : ProverSettings) : (start settings).Fresh :=
  ⟨startSound settings,rfl,rfl,rfl⟩

theorem numberedFew (fresh : s.Fresh) (numbered : s.Numbered moves id n) : n < moves.length := by
  have below := (numberedTaken fresh.sound numbered).below
  have bound := nextBound fresh.sound moves
  rw [fresh.next, Nat.zero_add] at bound
  exact Nat.lt_of_lt_of_le below bound

theorem heldNumbered (fresh : s.Fresh) {c : Call} (found : (s.run moves).calls[id]? = some c)
    (number : c.stage.number? = some n) : s.Numbered moves id n := by
  induction moves using List.reverseRecOn generalizing c with
  | nil => simp [run, fresh.calls] at found
  | append_singleton moves m ih =>
    have sound := runSound fresh.sound moves
    rw [runSnoc] at found
    rcases (moveEffect sound m).origin found with ⟨queued, _⟩ | ⟨b, before, goes⟩
    · exact absurd queued (Stage.numberedTaken number)
    · rcases goes.number number with held | ⟨_, _, enrolled⟩
      · exact numberedSnoc (ih before held) m
      · refine ⟨moves ++ [m],List.prefix_rfl,?_⟩
        rw [runSnoc]
        exact enrolled

theorem runKeeps (sound : s.desk.Sound) (moves : List Move) :
    (s.run moves).file = s.file ∧ (s.run moves).listenerCapacity = s.listenerCapacity := by
  induction moves generalizing s with
  | nil => exact ⟨rfl,rfl⟩
  | cons m moves ih =>
    have step : (s.move m).desk.file = s.desk.file ∧
        (s.move m).desk.listenerCapacity = s.desk.listenerCapacity := by
      generalize (s.move m).desk = d, moveEffect sound m = effect
      cases effect <;> exact ⟨rfl,rfl⟩
    obtain ⟨file, capacity⟩ := ih (moveSound sound m)
    exact ⟨file.trans step.1,capacity.trans step.2⟩

theorem sentNumbered (fresh : s.Fresh) {request : Request} (mem : request ∈ (s.run moves).written) :
    ∃ id c, s.Numbered moves id request.number ∧ (s.run moves).calls[id]? = some c ∧
      request.command = c.job.command s.file := by
  induction moves using List.reverseRecOn with
  | nil => simp [run, fresh.written] at mem
  | append_singleton moves m ih =>
    have sound := runSound fresh.sound moves
    have effect := moveEffect sound m
    rw [runSnoc] at mem ⊢
    have old (before : request ∈ (s.run moves).written) : ∃ id c,
        s.Numbered (moves ++ [m]) id request.number ∧ ((s.run moves).move m).calls[id]? = some c ∧
          request.command = c.job.command s.file := by
      obtain ⟨id, c, numbered, found, command⟩ := ih before
      obtain ⟨c', after, becomes⟩ := effect.becomes sound found
      exact ⟨id,c',numberedSnoc numbered m,after,by rw [command, becomes.job]⟩
    rcases effect.sends with same | ⟨id, c, n, deadline, found, numbered, same, _⟩
    · exact old (same ▸ mem)
    · have mem : request ∈ (s.run moves).written ++ [⟨n,c.job.command (s.run moves).file⟩] :=
        same ▸ mem
      rcases List.mem_append.mp mem with before | new
      · exact old before
      · cases List.mem_singleton.mp new
        obtain ⟨c', after, becomes⟩ := effect.becomes sound found
        have held := heldNumbered fresh found (n := n) (by rw [numbered]; rfl)
        exact ⟨id,c',numberedSnoc held m,after,by rw [becomes.job, (runKeeps fresh.sound moves).1]⟩

/-! ### Replies -/

def Resolves (s : Session) (m : Move) (id : Nat) (result : Except ProverFailure Reply) : Prop :=
  ∃ c c', s.calls[id]? = some c ∧ c.reply = none ∧ (s.move m).calls[id]? = some c' ∧
    c'.reply = some result

def AnsweredAfter (s : Session) (moves first : List Move) (id n : Nat)
    (result : Except ProverFailure Reply) : Prop :=
  ∃ line, first ++ [.receive line] <+: moves ∧ (s.run first).Answers line id n result

theorem Answers.resolves (sound : s.desk.Sound) {line : Response}
    {result : Except ProverFailure Reply} (answers : Answers s line id n result) :
    s.Resolves (.receive line) id result := by
  obtain ⟨c, found, same⟩ := answers.leaves sound
  obtain ⟨_, unanswered⟩ := registeredFound sound answers.registered found
  refine ⟨c,{ c with reply := some result },found,unanswered,?_,rfl⟩
  exact (congrArg (fun d => d.calls[id]?) same).trans (by rw [setFound found, if_pos rfl])

theorem closingResolves (sound : s.desk.Sound) (closing : s.Closing m)
    (registered : (n,id) ∈ s.waiters) : s.Resolves m id (.error .closed) := by
  obtain ⟨c, found, number, unanswered⟩ := sound.owned registered
  have mem : id ∈ s.waiters.map (·.2) := List.mem_map.mpr ⟨_,registered,rfl⟩
  have after : s.shut.calls[id]? = some { c with reply := some (.error .closed) } := by
    have found : s.calls[id]? = some c := found
    refine (shutEach s.waiters s.calls id).trans ?_
    rw [found, Option.map_some, if_pos mem]
  refine ⟨c,{ c with reply := some (.error .closed) },found,unanswered,?_,rfl⟩
  rcases closing with rfl | ⟨rfl, listens⟩
  · exact after
  · rw [move, if_pos listens]
    exact after

theorem Resolves.cause (sound : s.desk.Sound) {result : Except ProverFailure Reply}
    (resolves : s.Resolves m id result) :
    (∃ line n, m = .receive line ∧ s.Answers line id n result) ∨
      s.Closing m ∧ result = .error .closed := by
  obtain ⟨c, c', found, waits, after, reply⟩ := resolves
  obtain ⟨_, same, goes⟩ := (moveEffect sound m).goes found
  cases after.symm.trans same
  exact goes.resolved waits reply

theorem registeredRemains (sound : s.desk.Sound) (m : Move) (registered : (n,id) ∈ s.waiters) :
    (n,id) ∈ (s.move m).waiters ∨ (∃ result, Returns s id m result) ∨
      ∃ result, s.Resolves m id result := by
  rcases (moveEffect sound m).remains registered with
    here | returned | ⟨line, _, result, rfl, answers⟩ | closing
  · exact .inl here
  · exact .inr (.inl returned)
  · exact .inr (.inr ⟨result,answers.resolves sound⟩)
  · exact .inr (.inr ⟨_,closingResolves sound closing registered⟩)

theorem enterRegisters {c : Call} (found : s.calls[id]? = some c) (queued : c.stage = .queued)
    (turn : ¬(s.free = 0 ∨ !s.isFirstQueued id)) (running : s.phase ≠ .stopped) :
    (s.nextNumber,id) ∈ (s.move (.proceed id)).waiters ∧
      (s.move (.proceed id)).calls[id]? = some { c with stage := .numbered s.nextNumber } := by
  have same : s.move (.proceed id) = s.enter id := by simp only [move, proceed, found, queued]
  rw [same, enter, if_neg turn, if_neg running]
  refine ⟨List.mem_append_right _ (List.mem_singleton_self _),?_⟩
  simp [setStage, found]

theorem writeSends {c : Call} (found : s.calls[id]? = some c) (numbered : c.stage = .numbered n)
    (inputOpen : s.inputOpen) :
    (s.move (.proceed id)).written = s.written ++ [⟨n,c.job.command s.file⟩] ∧
      ∃ deadline, (s.move (.proceed id)).calls[id]? =
        some { c with stage := .waiting n deadline } := by
  have same : s.move (.proceed id) = s.write id c n := by
    simp only [move, proceed, found, numbered]
  rw [same, write, if_pos inputOpen]
  refine ⟨rfl,s.now + c.timeout.milliseconds,?_⟩
  simp [setStage, found]

theorem Resolves.kept (sound : s.desk.Sound) {result : Except ProverFailure Reply}
    (resolves : s.Resolves m id result) (later : List Move) :
    ∃ c, ((s.move m).run later).calls[id]? = some c ∧ c.reply = some result ∧
      ∀ {number deadline}, c.stage = .waiting number deadline →
        Returns ((s.move m).run later) id (.proceed id) result := by
  obtain ⟨_, c, _, _, found, reply⟩ := resolves
  obtain ⟨c', after, becomes⟩ := runBecomes (moveSound sound m) later found
  have kept := becomes.reply reply
  exact ⟨c',after,kept,fun waits => .answered after waits kept⟩

theorem closingClears (closing : s.Closing m) : (s.move m).waiters = [] := by
  rcases closing with rfl | ⟨rfl, listens⟩
  · rfl
  · rw [move, if_pos listens]
    rfl

theorem resolvedOnce (sound : s.desk.Sound) {first first' : List Move} {m' : Move}
    {result result' : Except ProverFailure Reply} (within : first ++ [m] <+: moves)
    (within' : first' ++ [m'] <+: moves) (resolves : (s.run first).Resolves m id result)
    (resolves' : (s.run first').Resolves m' id result') : first = first' := by
  have unordered {first first' : List Move} {m m' : Move}
      {result result' : Except ProverFailure Reply}
      (within : first ++ [m] <+: moves) (within' : first' ++ [m'] <+: moves)
      (resolves : (s.run first).Resolves m id result)
      (resolves' : (s.run first').Resolves m' id result') : ¬first.length < first'.length := by
    intro shorter
    have before : first ++ [m] <+: first' :=
      List.prefix_of_prefix_length_le within ((List.prefix_append _ _).trans within')
        (by rw [List.length_append]; exact shorter)
    obtain ⟨later, rfl⟩ := before
    obtain ⟨_, c, _, _, found, reply⟩ := resolves
    obtain ⟨c', _, found', unanswered, _, _⟩ := resolves'
    rw [runAppend, runSnoc] at found'
    obtain ⟨_, same, becomes⟩ := runBecomes (moveSound (runSound sound first) m) later found
    cases found'.symm.trans same
    cases unanswered.symm.trans (becomes.reply reply)
  have le := unordered within within' resolves resolves'
  have ge := unordered within' within resolves' resolves
  have same : first.length = first'.length := by omega
  exact (List.prefix_of_prefix_length_le ((List.prefix_append _ _).trans within)
    ((List.prefix_append _ _).trans within') (Nat.le_of_eq same)).eq_of_length same

theorem answeredOnce (sound : s.desk.Sound) {first other : List Move} {n' : Nat}
    {result result' : Except ProverFailure Reply}
    (answered : s.AnsweredAfter moves first id n result)
    (again : s.AnsweredAfter moves other id n' result') :
    other = first ∧ n' = n ∧ result' = result := by
  obtain ⟨line, within, answers⟩ := answered
  obtain ⟨line', within', answers'⟩ := again
  obtain rfl := resolvedOnce sound within' within (answers'.resolves (runSound sound other))
    (answers.resolves (runSound sound first))
  have same := (List.prefix_of_prefix_length_le within' within (by simp)).eq_of_length (by simp)
  obtain ⟨_, same⟩ := List.append_inj same rfl
  cases same
  cases answers.answer.symm.trans answers'.answer
  exact ⟨rfl,rfl,rfl⟩

theorem replyAnswered (fresh : s.Fresh) {c : Call} {result : Except ProverFailure Reply}
    (found : (s.run moves).calls[id]? = some c) (reply : c.reply = some result)
    (open' : result ≠ .error .closed) : ∃ first n, s.AnsweredAfter moves first id n result := by
  induction moves using List.reverseRecOn generalizing c with
  | nil => simp [run, fresh.calls] at found
  | append_singleton moves m ih =>
    have sound := runSound fresh.sound moves
    rw [runSnoc] at found
    rcases (moveEffect sound m).origin found with ⟨_, unanswered⟩ | ⟨b, before, goes⟩
    · cases unanswered.symm.trans reply
    · cases old : b.reply with
      | some result' =>
        cases reply.symm.trans ((goes.becomes sound before).reply old)
        obtain ⟨first, n, line, within, answers⟩ := ih before old
        exact ⟨first,n,line,within.trans (List.prefix_append _ _),answers⟩
      | none =>
        rcases goes.resolved old reply with ⟨line, n, rfl, answers⟩ | ⟨_, closed⟩
        · exact ⟨moves,n,line,List.prefix_rfl,answers⟩
        · exact absurd closed open'

/-! ### After the return -/

def Over (s : Session) (id : Nat) : Prop :=
  ∃ c, s.calls[id]? = some c ∧ c.stage ≠ .queued ∧ ∀ n, (n,id) ∉ s.waiters

theorem moveOver (sound : s.desk.Sound) (m : Move) (past : s.Over id) : (s.move m).Over id := by
  have effect := moveEffect sound m
  obtain ⟨c, found, entered, off⟩ := past
  obtain ⟨c', after, becomes⟩ := effect.becomes sound found
  refine ⟨c',after,becomesEntered becomes entered,?_⟩
  intro n registered
  rcases effect.table registered with before | ⟨_, _, b, there, queued, _⟩
  · exact off n before
  · cases found.symm.trans there
    exact entered queued

theorem runOver (sound : s.desk.Sound) (moves : List Move) (past : s.Over id) :
    (s.run moves).Over id := by
  induction moves generalizing s with
  | nil => exact past
  | cons m moves ih => exact ih (moveSound sound m) (moveOver sound m past)

theorem Returns.isOver (sound : s.desk.Sound) {result : Except ProverFailure Reply}
    (returned : Returns s id m result) : (s.move m).Over id := by
  obtain ⟨c, number, found, same⟩ := returned.leaves sound
  have calls : (s.move m).calls = _ := congrArg Desk.calls same
  have waiters : (s.move m).waiters = _ := congrArg Desk.waiters same
  refine ⟨_,by rw [calls, setFound found, if_pos rfl],?_,fun n => ?_⟩
  · intro queued
    have past := c.goesOnReturned number s.lastMessages result
    rw [show c.goesOn number s.lastMessages result = .queued from queued] at past
    cases past
  · rw [waiters]
    simp

theorem Resolves.isOver (sound : s.desk.Sound) {result : Except ProverFailure Reply}
    (resolves : s.Resolves m id result) : (s.move m).Over id := by
  obtain ⟨_, c, _, _, found, reply⟩ := resolves
  have sound := moveSound sound m
  refine ⟨c,found,fun queued => ?_,sound.absent found (.inr (by simp [reply]))⟩
  cases (sound.fresh found queued).symm.trans reply

theorem overSilent (sound : s.desk.Sound) (past : (s.run moves).Over id)
    (numbered : s.Numbered moves id n) {line : Response} {result : Except ProverFailure Reply}
    (answer : line.answer? = some (n,result)) :
    (s.run moves).move (.receive line) = s.run moves := by
  obtain ⟨_, _, _, off⟩ := past
  have unknown : ∀ other, (n,other) ∉ (s.run moves).waiters := by
    intro other registered
    obtain rfl := ((numberedTaken sound numbered).only registered).mpr rfl
    exact off n registered
  rw [move, receiveAnswer answer, answerUnknown unknown, ite_self]

/-! ### Every run -/

def IsAnswer : Except ProverFailure Reply → Prop
  | .ok _ | .error (.refused _) => True
  | _ => False

theorem returnedAnswer (fresh : s.Fresh) {result : Except ProverFailure Reply}
    (returned : Returns (s.run moves) id m result) (answer : IsAnswer result) :
    ∃ n first, s.AnsweredAfter moves first id n result := by
  cases returned with
  | answered found waits reply =>
    obtain ⟨first, n, answered⟩ := replyAnswered fresh found reply (by rintro rfl; exact answer)
    exact ⟨n,first,answered⟩
  | late | unwritten | refused => exact answer.elim

structure Routed (s : Session) (moves : List Move) : Prop where
  distinct : ∀ {id n id' n'}, s.Numbered moves id n → s.Numbered moves id' n' → (id = id' ↔ n = n')
  few : ∀ {id n}, s.Numbered moves id n → n < moves.length
  sent : ((s.run moves).written.map (·.number)).Nodup ∧ ∀ request ∈ (s.run moves).written,
    ∃ id c, s.Numbered moves id request.number ∧ (s.run moves).calls[id]? = some c ∧
      request.command = c.job.command s.file
  returns : ∀ {earlier m id c c'}, earlier ++ [m] <+: moves →
    (s.run earlier).calls[id]? = some c → c.stage.submits →
      (s.run (earlier ++ [m])).calls[id]? = some c' →
        (c'.stage.submits = false ↔ ∃ result, Returns (s.run earlier) id m result)
  shown : ∀ {earlier m id result}, earlier ++ [m] <+: moves →
    Returns (s.run earlier) id m result → ∃ c number, (s.run earlier).calls[id]? = some c ∧
      (s.run (earlier ++ [m])).calls[id]? = some { c with
        stage := c.goesOn number (s.run earlier).lastMessages result }
  own : ∀ {earlier m id result}, earlier ++ [m] <+: moves →
    Returns (s.run earlier) id m result → IsAnswer result →
      ∃ n first, s.AnsweredAfter earlier first id n result ∧
        ∀ {n' other result'}, s.AnsweredAfter earlier other id n' result' →
          other = first ∧ n' = n ∧ result' = result
  registers : ∀ {earlier id c}, earlier ++ [.proceed id] <+: moves →
    (s.run earlier).calls[id]? = some c → c.stage = .queued →
      ¬((s.run earlier).free = 0 ∨ !(s.run earlier).isFirstQueued id) →
        (s.run earlier).phase ≠ .stopped →
          ((s.run earlier).nextNumber,id) ∈ (s.run (earlier ++ [.proceed id])).waiters ∧
            (s.run (earlier ++ [.proceed id])).calls[id]? =
              some { c with stage := .numbered (s.run earlier).nextNumber }
  writes : ∀ {earlier id n c}, earlier ++ [.proceed id] <+: moves →
    (s.run earlier).calls[id]? = some c → c.stage = .numbered n → (s.run earlier).inputOpen →
      (s.run (earlier ++ [.proceed id])).written =
          (s.run earlier).written ++ [⟨n,c.job.command (s.run earlier).file⟩] ∧
        ∃ deadline, (s.run (earlier ++ [.proceed id])).calls[id]? =
          some { c with stage := .waiting n deadline }
  remains : ∀ {earlier m id n}, earlier ++ [m] <+: moves → (n,id) ∈ (s.run earlier).waiters →
    (n,id) ∈ (s.run (earlier ++ [m])).waiters ∨ (∃ result, Returns (s.run earlier) id m result) ∨
      ∃ result, (s.run earlier).Resolves m id result
  delivered : ∀ {earlier line id n result}, earlier ++ [.receive line] <+: moves →
    (s.run earlier).Answers line id n result → (s.run earlier).Resolves (.receive line) id result
  kept : ∀ {earlier m later id result}, earlier ++ [m] ++ later <+: moves →
    (s.run earlier).Resolves m id result →
      ∃ c, (s.run (earlier ++ [m] ++ later)).calls[id]? = some c ∧ c.reply = some result ∧
        ∀ {number deadline}, c.stage = .waiting number deadline →
          Returns (s.run (earlier ++ [m] ++ later)) id (.proceed id) result
  resolved : ∀ {earlier m id result}, earlier ++ [m] <+: moves →
    (s.run earlier).Resolves m id result →
      (∃ line n, m = .receive line ∧ (s.run earlier).Answers line id n result) ∨
        (s.run earlier).Closing m ∧ result = .error .closed
  single : ∀ {earlier line}, earlier ++ [.receive line] <+: moves → ∃ id : Nat, ∀ other : Nat,
    other ≠ id → (s.run (earlier ++ [.receive line])).calls[other]? = (s.run earlier).calls[other]?
  once : ∀ {first other m m' id result result'}, first ++ [m] <+: moves → other ++ [m'] <+: moves →
    (s.run first).Resolves m id result → (s.run other).Resolves m' id result' → first = other
  gone : ∀ {earlier m id result}, earlier ++ [m] <+: moves →
    Returns (s.run earlier) id m result ∨ (s.run earlier).Resolves m id result →
      (∀ n, (n,id) ∉ (s.run moves).waiters) ∧ ∀ {n line result'}, s.Numbered moves id n →
        line.answer? = some (n,result') → (s.run moves).move (.receive line) = s.run moves
  closes : ∀ {earlier m}, earlier ++ [m] <+: moves → (s.run earlier).Closing m →
    (s.run (earlier ++ [m])).waiters = [] ∧ ∀ {n id}, (n,id) ∈ (s.run earlier).waiters →
      (s.run earlier).Resolves m id (.error .closed)

theorem returnsEnd (sound : s.desk.Sound) {c c' : Call} (found : s.calls[id]? = some c)
    (submits : c.stage.submits) (after : (s.move m).calls[id]? = some c') :
    c'.stage.submits = false ↔ ∃ result, Returns s id m result := by
  obtain ⟨_, same, goes⟩ := (moveEffect sound m).goes found
  cases after.symm.trans same
  refine ⟨goes.returned submits,?_⟩
  rintro ⟨result, returned⟩
  obtain ⟨b, number, found', same⟩ := returned.leaves sound
  have calls : (s.move m).calls = _ := congrArg Desk.calls same
  rw [calls, setFound found', if_pos rfl] at after
  cases after
  exact b.goesOnReturned number s.lastMessages result

theorem returnsShown (sound : s.desk.Sound) {result : Except ProverFailure Reply}
    (returned : Returns s id m result) : ∃ c number, s.calls[id]? = some c ∧
      (s.move m).calls[id]? = some { c with stage := c.goesOn number s.lastMessages result } := by
  obtain ⟨c, number, found, same⟩ := returned.leaves sound
  have calls : (s.move m).calls = _ := congrArg Desk.calls same
  exact ⟨c,number,found,by rw [calls, setFound found, if_pos rfl]⟩

theorem overAfter (sound : s.desk.Sound) {earlier : List Move}
    {result : Except ProverFailure Reply} (within : earlier ++ [m] <+: moves)
    (ended : Returns (s.run earlier) id m result ∨ (s.run earlier).Resolves m id result) :
    (s.run moves).Over id := by
  have past : (s.run (earlier ++ [m])).Over id := by
    rw [runSnoc]
    rcases ended with returned | resolves
    · exact returned.isOver (runSound sound earlier)
    · exact resolves.isOver (runSound sound earlier)
  obtain ⟨later, same⟩ := prefixRun within
  rw [same]
  exact runOver (runSound sound (earlier ++ [m])) later past

/-- In every run of a session the replies go to the calls that they are for. -/
theorem repliesRouted (settings : ProverSettings) (moves : List Move) :
    Routed (start settings) moves := by
  have fresh := startFresh settings
  have sound := runSound fresh.sound
  refine
    { distinct := numberedDistinct fresh.sound
      few := numberedFew fresh
      sent := ⟨(sound moves).once,fun _ => sentNumbered fresh⟩
      returns := ?returns
      shown := ?shown
      own := ?own
      registers := ?registers
      writes := ?writes
      remains := ?remains
      delivered := fun _ answers => answers.resolves (sound _)
      kept := ?kept
      resolved := fun _ resolves => resolves.cause (sound _)
      single := ?single
      once := resolvedOnce fresh.sound
      gone := ?gone
      closes := ?closes }
  case returns =>
    intro earlier m id c c' within found submits after
    rw [runSnoc] at after
    exact returnsEnd (sound earlier) found submits after
  case shown =>
    intro earlier m id result within returned
    rw [runSnoc]
    exact returnsShown (sound earlier) returned
  case own =>
    intro earlier m id result within returned answer
    obtain ⟨n, first, answered⟩ := returnedAnswer fresh returned answer
    exact ⟨n,first,answered,answeredOnce fresh.sound answered⟩
  case registers =>
    intro earlier id c within found queued turn running
    rw [runSnoc]
    exact enterRegisters found queued turn running
  case writes =>
    intro earlier id n c within found numbered inputOpen
    rw [runSnoc]
    exact writeSends found numbered inputOpen
  case remains =>
    intro earlier m id n within registered
    rw [runSnoc]
    exact registeredRemains (sound earlier) m registered
  case kept =>
    intro earlier m later id result within resolves
    rw [runAppend, runSnoc]
    exact resolves.kept (sound earlier) later
  case single =>
    intro earlier line within
    rw [runSnoc]
    exact (moveEffect (sound earlier) (.receive line)).receives
  case gone =>
    intro earlier m id result within ended
    have past := overAfter fresh.sound within ended
    have off := past.choose_spec.2.2
    exact ⟨off,fun numbered answer => overSilent fresh.sound past numbered answer⟩
  case closes =>
    intro earlier m within closing
    rw [runSnoc]
    exact ⟨closingClears closing,closingResolves (sound earlier) closing⟩

end ProofTutor.Session
