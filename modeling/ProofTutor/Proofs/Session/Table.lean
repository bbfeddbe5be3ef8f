import ProofTutor.Proofs.Session.Desk

/-!
What a move makes of each call, and what every move keeps: a call on the table holds the number that it
is there under and has no reply, no two calls hold the same number, and no request is written twice.
-/
namespace ProofTutor.Session

variable {s : Session}

/-! ### What a move makes of a call -/

inductive Goes (s : Session) (m : Move) (d : Desk) (id : Nat) (c : Call) : Call → Prop where
  | stays : Goes s m d id c c
  | enters (own : m = .proceed id) (queued : c.stage = .queued)
      (enrolled : (s.nextNumber,id) ∈ d.waiters) :
      Goes s m d id c { c with stage := .numbered s.nextNumber }
  | writes {n deadline} (numbered : c.stage = .numbered n) :
      Goes s m d id c { c with stage := .waiting n deadline }
  | returns {number result} (returned : Returns s id m result) (off : ∀ n, (n,id) ∉ d.waiters) :
      Goes s m d id c { c with stage := c.goesOn number s.lastMessages result }
  | follows {c'} (followed : Follows s id c m c') : Goes s m d id c c'
  | answered {line n result} (received : m = .receive line) (answers : Answers s line id n result)
      (off : ∀ n, (n,id) ∉ d.waiters) : Goes s m d id c { c with reply := some result }
  | closed {n} (closing : s.Closing m) (registered : (n,id) ∈ s.waiters)
      (off : ∀ n, (n,id) ∉ d.waiters) :
      Goes s m d id c { c with reply := some (.error .closed) }

variable {m : Move} {d : Desk} {id n : Nat} {c c' : Call}

theorem goesSet {calls : List Call} {i : Nat} {b b' : Call} (changed : calls[i]? = some b)
    (goes : Goes s m d i b b') (found : calls[id]? = some c) :
    ∃ c', (calls.set i b')[id]? = some c' ∧ Goes s m d id c c' := by
  rw [setFound changed]
  split
  · rename_i same
    subst same
    cases changed.symm.trans found
    exact ⟨b',rfl,goes⟩
  · exact ⟨c,found,.stays⟩

theorem Effect.goes (effect : Effect s m d) (found : s.calls[id]? = some c) :
    ∃ c', d.calls[id]? = some c' ∧ Goes s m d id c c' := by
  cases effect with
  | idle => exact ⟨c,found,.stays⟩
  | begins queued unanswered =>
    obtain ⟨inside, _⟩ := List.getElem?_eq_some_iff.mp found
    exact ⟨c,(List.getElem?_append_left inside).trans found,.stays⟩
  | enters here queued =>
    exact goesSet here
      (.enters rfl queued (List.mem_append_right _ (List.mem_singleton_self _))) found
  | writes here numbered => exact goesSet here (.writes numbered) found
  | returns number here returned => exact goesSet here (.returns returned (by simp)) found
  | follows here followed => exact goesSet here (.follows followed) found
  | answers answers here => exact goesSet here (.answered rfl answers (by simp)) found
  | shuts closing each =>
    refine ⟨_,(each id).trans (by rw [found]; rfl),?_⟩
    split
    · rename_i mem
      obtain ⟨⟨n, _⟩, registered, rfl⟩ := List.mem_map.mp mem
      exact .closed closing registered (by simp)
    · exact .stays

theorem setThere {calls : List Call} {i : Nat} {b b' : Call} (changed : calls[i]? = some b)
    (found : (calls.set i b')[id]? = some c) : calls[id]? ≠ none := by
  rw [setFound changed] at found
  split at found
  · rename_i same
    simp [same, changed]
  · simp [found]

theorem Effect.origin (effect : Effect s m d) (found : d.calls[id]? = some c') :
    c'.stage = .queued ∧ c'.reply = none ∨ ∃ c, s.calls[id]? = some c ∧ Goes s m d id c c' := by
  cases old : s.calls[id]? with
  | some c =>
    obtain ⟨_, same, goes⟩ := effect.goes old
    cases found.symm.trans same
    exact .inr ⟨c,rfl,goes⟩
  | none =>
    left
    cases effect with
    | idle => cases old.symm.trans found
    | begins queued unanswered =>
      rw [List.getElem?_append, old] at found
      split at found
      · cases found
      · cases List.mem_singleton.mp (List.mem_of_getElem? found)
        exact ⟨queued,unanswered⟩
    | enters here _ | writes here _ | returns _ here _ | follows here _ | answers _ here =>
      exact absurd old (setThere here found)
    | shuts closing each =>
      have shut := (each id).symm.trans found
      rw [old] at shut
      cases shut

theorem Effect.table (effect : Effect s m d) (registered : (n,id) ∈ d.waiters) :
    (n,id) ∈ s.waiters ∨ n = s.nextNumber ∧ d.nextNumber = n + 1 ∧
      ∃ c, s.calls[id]? = some c ∧ c.stage = .queued ∧
        d.calls[id]? = some { c with stage := .numbered n } := by
  cases effect with
  | idle | begins _ _ | writes _ _ | follows _ _ => exact .inl registered
  | enters here queued =>
    rcases List.mem_append.mp registered with before | new
    · exact .inl before
    · cases List.mem_singleton.mp new
      exact .inr ⟨rfl,rfl,_,here,queued,by rw [setFound here, if_pos rfl]⟩
  | returns number here returned => exact .inl (List.mem_filter.mp registered).1
  | answers answers here => exact .inl (List.mem_filter.mp registered).1
  | shuts closing each => cases registered

theorem Effect.remains (effect : Effect s m d) (registered : (n,id) ∈ s.waiters) :
    (n,id) ∈ d.waiters ∨ (∃ result, Returns s id m result) ∨
      (∃ line n result, m = .receive line ∧ Answers s line id n result) ∨ s.Closing m := by
  cases effect with
  | idle | begins _ _ | writes _ _ | follows _ _ => exact .inl registered
  | enters here queued => exact .inl (List.mem_append_left _ registered)
  | @returns _ other _ result number here returned =>
    by_cases own : id = other
    · subst own
      exact .inr (.inl ⟨result,returned⟩)
    · exact .inl (List.mem_filter.mpr ⟨registered,by simpa using own⟩)
  | @answers line number other _ result answers here =>
    by_cases own : id = other
    · subst own
      exact .inr (.inr (.inl ⟨line,number,result,rfl,answers⟩))
    · exact .inl (List.mem_filter.mpr ⟨registered,by simpa using own⟩)
  | shuts closing each => exact .inr (.inr (.inr closing))

theorem Effect.next (effect : Effect s m d) :
    s.nextNumber ≤ d.nextNumber ∧ d.nextNumber ≤ s.nextNumber + 1 := by
  cases effect with
  | enters here queued => exact ⟨Nat.le_succ _,Nat.le_refl _⟩
  | _ => exact ⟨Nat.le_refl _,Nat.le_succ _⟩

theorem registeredFound (sound : s.desk.Sound) (registered : (n,id) ∈ s.waiters)
    (found : s.calls[id]? = some c) : c.stage.number? = some n ∧ c.reply = none := by
  obtain ⟨b, same, facts⟩ := sound.owned registered
  cases found.symm.trans same
  exact facts

theorem Goes.becomes (goes : Goes s m d id c c') (sound : s.desk.Sound)
    (found : s.calls[id]? = some c) : c.Becomes c' := by
  cases goes with
  | stays => exact c.becomesRefl
  | enters own queued enrolled =>
    exact ⟨rfl,nofun,fun _ => .inr queued,fun _ => by rw [queued]; rfl,fun reply => reply⟩
  | writes numbered =>
    exact ⟨rfl,nofun,nofun,fun _ => by rw [numbered]; rfl,fun reply => reply⟩
  | returns returned off => exact Call.returnedBecomes (Call.goesOnReturned ..) rfl rfl
  | follows followed => exact Call.returnedBecomes followed.after followed.job followed.reply
  | answered received answers off =>
    obtain ⟨number, unanswered⟩ := registeredFound sound answers.registered found
    exact Call.replyBecomes (Stage.numberedTaken number) unanswered _
  | closed closing registered off =>
    obtain ⟨number, unanswered⟩ := registeredFound sound registered found
    exact Call.replyBecomes (Stage.numberedTaken number) unanswered _

theorem Goes.number (goes : Goes s m d id c c') (number : c'.stage.number? = some n) :
    c.stage.number? = some n ∨ m = .proceed id ∧ n = s.nextNumber ∧ (n,id) ∈ d.waiters := by
  cases goes with
  | stays | answered _ _ _ | closed _ _ _ => exact .inl number
  | enters own queued enrolled =>
    cases number
    exact .inr ⟨own,rfl,enrolled⟩
  | writes numbered => exact .inl (by rw [numbered]; exact number)
  | returns returned off =>
    rw [Stage.returnedNumber (Call.goesOnReturned ..)] at number
    cases number
  | follows followed =>
    rw [Stage.returnedNumber followed.after] at number
    cases number

theorem Goes.returned (goes : Goes s m d id c c') (submits : c.stage.submits)
    (left : c'.stage.submits = false) : ∃ result, Returns s id m result := by
  cases goes with
  | stays | answered _ _ _ | closed _ _ _ => cases left.symm.trans submits
  | enters _ _ _ | writes _ => cases left
  | returns returned off => exact ⟨_,returned⟩
  | follows followed => cases followed.before.symm.trans submits

theorem Goes.resolved {result : Except ProverFailure Reply} (goes : Goes s m d id c c')
    (waits : c.reply = none) (reply : c'.reply = some result) :
    (∃ line n, m = .receive line ∧ Answers s line id n result) ∨
      s.Closing m ∧ result = .error .closed := by
  cases goes with
  | stays | enters _ _ _ | writes _ | returns _ _ => cases waits.symm.trans reply
  | follows followed => cases waits.symm.trans (followed.reply.symm.trans reply)
  | answered received answers off =>
    cases reply
    exact .inl ⟨_,_,received,answers⟩
  | closed closing registered off =>
    cases reply
    exact .inr ⟨closing,rfl⟩

/-! ### What a move keeps -/

theorem Effect.becomes (effect : Effect s m d) (sound : s.desk.Sound)
    (found : s.calls[id]? = some c) : ∃ c', d.calls[id]? = some c' ∧ c.Becomes c' := by
  obtain ⟨c', after, goes⟩ := effect.goes found
  exact ⟨c',after,goes.becomes sound found⟩

theorem Effect.owned (effect : Effect s m d) (sound : s.desk.Sound)
    (registered : (n,id) ∈ d.waiters) :
    ∃ c, d.calls[id]? = some c ∧ c.stage.number? = some n ∧ c.reply = none := by
  rcases effect.table registered with before | ⟨rfl, _, c, found, queued, after⟩
  · obtain ⟨c, found, number, unanswered⟩ := sound.owned before
    obtain ⟨c', after, goes⟩ := effect.goes found
    refine ⟨c',after,?_⟩
    cases goes with
    | stays => exact ⟨number,unanswered⟩
    | enters own queued enrolled =>
      rw [queued] at number
      cases number
    | writes numbered => exact ⟨by rw [numbered] at number; exact number,unanswered⟩
    | follows followed =>
      rw [Stage.returnedNumber followed.before] at number
      cases number
    | returns _ off | answered _ _ off | closed _ _ off => exact absurd registered (off n)
  · have unanswered := sound.fresh found queued
    exact ⟨_,after,rfl,unanswered⟩

theorem Effect.sends (effect : Effect s m d) : d.written = s.written ∨
    ∃ id c n deadline, s.calls[id]? = some c ∧ c.stage = .numbered n ∧
      d.written = s.written ++ [⟨n,c.job.command s.file⟩] ∧
        d.calls = s.calls.set id { c with stage := .waiting n deadline } := by
  cases effect with
  | @writes id c n deadline here numbered => exact .inr ⟨id,c,n,deadline,here,numbered,rfl,rfl⟩
  | _ => exact .inl rfl

theorem Effect.sent (effect : Effect s m d) (sound : s.desk.Sound) {request : Request}
    (mem : request ∈ d.written) : request.number < s.nextNumber := by
  rcases effect.sends with same | ⟨id, c, n, deadline, here, numbered, same, _⟩
  · rw [same] at mem
    exact sound.sent mem
  · rw [same] at mem
    rcases List.mem_append.mp mem with before | new
    · exact sound.sent before
    · cases List.mem_singleton.mp new
      exact sound.below here (by rw [numbered]; rfl)

theorem Effect.unwritten (effect : Effect s m d) (sound : s.desk.Sound) {request : Request}
    (mem : request ∈ d.written) (found : d.calls[id]? = some c') :
    c'.stage ≠ .numbered request.number := by
  intro stage
  rcases effect.origin found with ⟨queued, _⟩ | ⟨c, before, goes⟩
  · cases queued.symm.trans stage
  rcases goes.number (n := request.number) (by rw [stage]; rfl) with held | ⟨_, taken, _⟩
  · have numbered : c.stage = .numbered request.number := by
      rcases (goes.becomes sound before).numbered stage with numbered | queued
      · exact numbered
      · exact absurd queued (Stage.numberedTaken held)
    rcases effect.sends with same | ⟨i, b, n, deadline, here, own, same, calls⟩
    · rw [same] at mem
      exact sound.unwritten mem before numbered
    · rw [same] at mem
      rcases List.mem_append.mp mem with old | new
      · exact sound.unwritten old before numbered
      · cases List.mem_singleton.mp new
        obtain rfl := sound.apart before here held (by rw [own]; rfl)
        rw [calls, setFound here, if_pos rfl] at found
        cases found
        cases stage
  · exact Nat.ne_of_lt (effect.sent sound mem) taken

theorem Effect.below (effect : Effect s m d) (sound : s.desk.Sound)
    (found : d.calls[id]? = some c') (number : c'.stage.number? = some n) : n < d.nextNumber := by
  have next := effect.next.1
  rcases effect.origin found with ⟨queued, _⟩ | ⟨c, before, goes⟩
  · exact absurd queued (Stage.numberedTaken number)
  rcases goes.number number with held | ⟨_, rfl, enrolled⟩
  · exact Nat.lt_of_lt_of_le (sound.below before held) next
  · rcases effect.table enrolled with old | ⟨_, later, _⟩
    · obtain ⟨b, there, held, _⟩ := sound.owned old
      exact Nat.lt_of_lt_of_le (sound.below there held) next
    · omega

theorem Effect.apart (effect : Effect s m d) (sound : s.desk.Sound) {id' : Nat} {e e' : Call}
    (found : d.calls[id]? = some e) (found' : d.calls[id']? = some e')
    (number : e.stage.number? = some n) (number' : e'.stage.number? = some n) : id = id' := by
  rcases effect.origin found with ⟨queued, _⟩ | ⟨c, before, goes⟩
  · exact absurd queued (Stage.numberedTaken number)
  rcases effect.origin found' with ⟨queued, _⟩ | ⟨c', before', goes'⟩
  · exact absurd queued (Stage.numberedTaken number')
  rcases goes.number number with held | ⟨own, taken, _⟩ <;>
    rcases goes'.number number' with held' | ⟨own', taken', _⟩
  · exact sound.apart before before' held held'
  · exact absurd taken' (Nat.ne_of_lt (sound.below before held))
  · exact absurd taken (Nat.ne_of_lt (sound.below before' held'))
  · cases own.symm.trans own'
    rfl

theorem Effect.sound (effect : Effect s m d) (sound : s.desk.Sound) : d.Sound := by
  refine ⟨effect.owned sound,effect.below sound,effect.apart sound,?_,effect.unwritten sound,?_,?_⟩
  · intro id c found queued
    rcases effect.origin found with ⟨_, unanswered⟩ | ⟨b, before, goes⟩
    · exact unanswered
    · obtain rfl := (goes.becomes sound before).queued queued
      exact sound.fresh before queued
  · intro request mem
    exact Nat.lt_of_lt_of_le (effect.sent sound mem) effect.next.1
  · rcases effect.sends with same | ⟨id, c, n, deadline, here, numbered, same, _⟩
    · rw [same]
      exact sound.once
    · rw [same, List.map_append]
      refine List.nodup_append'.mpr ⟨sound.once,List.nodup_singleton _,?_⟩
      simp only [List.map_cons, List.map_nil, List.disjoint_singleton, List.mem_map]
      rintro ⟨request, mem, rfl⟩
      exact sound.unwritten mem here numbered

theorem Effect.receives {line : Response} (effect : Effect s (.receive line) d) :
    ∃ id : Nat, ∀ other : Nat, other ≠ id → d.calls[other]? = s.calls[other]? := by
  generalize received : Move.receive line = m at effect
  cases effect with
  | idle => exact ⟨0,fun _ _ => rfl⟩
  | answers answers here => exact ⟨_,fun other apart => (setFound here other).trans (if_neg apart)⟩
  | begins _ _ | enters _ _ | writes _ _ => cases received
  | returns number here returned =>
    subst received
    cases returned
  | follows here followed => rcases followed.own with rfl | rfl <;> cases received
  | shuts closing each => rcases closing with rfl | ⟨rfl, _⟩ <;> cases received

end ProofTutor.Session
