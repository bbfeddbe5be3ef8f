import ProofTutor.Proofs.Step.Answers
import ProofTutor.Proofs.Term.FreshName
import ProofTutor.Proofs.Text.Basic

/-! The message that is shown for a step is that of the alternative that fired. It is looked for
by the source of the alternative in the source that was effective, and whatever names and texts
these sources hold, no plan has an alternative that is found in the source of a later one with
another message. -/
namespace ProofTutor.Workbench

/-! ### Sources that begin with a word -/

section Words
variable {word : String} (apart : ¬ word.toList <+: Vocabulary.noMetaVars.toList)
include apart

theorem wordOther {text : String} (starts : word.toList <+: text.toList) :
    text ≠ "" ∧ text ≠ Vocabulary.noMetaVars := by
  refine ⟨?_, ?_⟩
  · rintro rfl
    rw [List.prefix_nil.mp starts] at apart
    exact apart List.nil_prefix
  · rintro rfl
    exact apart starts

theorem sourceStarts {text : String} (starts : word.toList <+: text.toList) (m : Messages) :
    (Tactic.atomic text m).source true = text := by
  have other := (wordOther apart starts).2
  simp [Tactic.source, other]

theorem spokenStarts {text : String} (starts : word.toList <+: text.toList) (m : Messages) :
    (Tactic.atomic text m).source true ≠ "" := by
  rw [sourceStarts apart starts]
  exact (wordOther apart starts).1

end Words

theorem spokenFirst {t : Tactic} (spoken : t.source true ≠ "") (ts : List Tactic) (m : Messages) :
    (Tactic.sequence (t :: ts) m).source true ≠ "" := by
  rw [Tactic.source, Tactic.sources, List.filter_cons_of_pos (by simpa using spoken)]
  cases (Tactic.sources true ts).filter (· ≠ "") with
  | nil => exact spoken
  | cons item items => simp [Text.join, String.append_eq_empty_iff]

theorem toldWords {word other text later left right : String} (head rest : List Char)
    (apart : ∀ begun ∈ [word, other], ¬ begun.toList <+: Vocabulary.noMetaVars.toList)
    (differ : ¬ word.toList <+: other.toList ∧ ¬ other.toList <+: word.toList)
    (starts : word.toList <+: text.toList) (starts' : other.toList <+: later.toList)
    (split : later.toList = head ++ rest) (whole : ',' ∉ head)
    (long : rest.length < text.toList.length + 2) :
    (Tactic.choice none (tactic text left) [tactic later right]).Told := by
  obtain ⟨first, second⟩ := List.forall_mem_cons.mp apart
  rw [List.forall_mem_singleton] at second
  refine Tactic.toldTwo rfl rfl ⟨spokenStarts first starts _, spokenStarts second starts' _⟩ ?_
  have own : (tactic text left).source true = text := sourceStarts first starts _
  rw [tactic, sourceStarts second starts', split]
  refine Tactic.notFired whole (fun found => ?_) (by rwa [own])
  rw [own, ← split] at found
  rcases List.prefix_or_prefix_of_prefix (starts.trans found) starts' with shorter | longer
  · exact differ.1 shorter
  · exact differ.2 longer

theorem newHypothesisSingle {w : Workbench} {new : String} {counter : Nat}
    (minted : w.newHypothesis = (new, counter)) : ',' ∉ new.toList := by
  rw [newHypothesis, Naming.hypothesisName] at minted
  rw [← (Prod.mk.inj minted).1]
  exact Naming.hypothesisWhole (by decide) (by decide) _

theorem answerTold {w : Workbench} {a : Action} {code : Tactic} {counter : Nat}
    (answer : Answer w a code counter) : code.Told := by
  cases answer with
  | alone => trivial
  | implications => trivial
  | @negation new counter button minted pushed added =>
    refine @toldWords "push_neg" "intro " _ _ _ _ ("intro " ++ new).toList [] (by decide)
      (by decide) List.prefix_rfl (Text.startsWord _ _) (List.append_nil _).symm ?_
      (Nat.zero_lt_succ _)
    rw [String.toList_append, List.mem_append, not_or]
    exact ⟨by decide, newHypothesisSingle minted⟩
  | rewriting h success =>
    refine @Tactic.toldSame _ _ _ _ success (by simp [tactic, Tactic.messages]) ?_
    refine List.forall_mem_cons.mpr ⟨?_, List.forall_mem_singleton.mpr ?_⟩
    · exact @spokenStarts "rw " (by decide) _ (Text.startsWord _ _) _
    · exact @spokenStarts "rw ← " (by decide) _ (Text.startsWord _ _) _
  | @substitution button h k mem =>
    refine @Tactic.toldSame _ _ _ _ ("Property " ++ k ++ " rewritten using " ++ h) ?_ ?_
    · exact List.forall_mem_cons.mpr ⟨rfl, List.forall_mem_singleton.mpr rfl⟩
    have spoken (arrow : String) :
        (useEquation h k (Naming.primedName k w.goal.names) arrow).source true ≠ "" := by
      refine spokenFirst (@spokenStarts "have " (by decide) _ ?_ _) _ _
      simpa only [String.append_assoc] using Text.startsWord "have " _
    exact List.forall_mem_cons.mpr ⟨spoken _, List.forall_mem_singleton.mpr (spoken _)⟩
  | absurdity => exact Tactic.toldNone (by simp [Tactic.messages])
  | closing => exact Tactic.toldNone (by simp [Tactic.messages, Tactic.solve1])
  | definition name defined applied =>
    -- Only the name can hold a comma, and it is shorter than the text that would have to follow.
    refine @toldWords "rw " "apply " _ _ _ _ "apply ".toList name.toList (by decide) (by decide)
      (Text.startsWord _ _) (Text.startsWord _ _) String.toList_append (by decide) ?_
    rw [String.toList_append, List.length_append]
    omega
  | @definitionAt new counter button minted name h defined added =>
    -- The first comma is in the name or after it: what follows leaves no room for ` at `.
    refine @toldWords "rw " "have " _ _ _ _ ("have " ++ new ++ " := ").toList
      (name ++ " " ++ h).toList (by decide) (by decide) ?_ ?_ ?_ ?_ ?_
    · simpa only [String.append_assoc] using Text.startsWord "rw " _
    · simpa only [String.append_assoc] using Text.startsWord "have " _
    · simp only [String.toList_append, List.append_assoc]
    · simp only [String.toList_append, List.mem_append, not_or]
      exact ⟨⟨by decide, newHypothesisSingle minted⟩, by decide⟩
    · simp
      omega

theorem firedMessage {w : Workbench} {a : Action} {plan : Plan} {counter : Nat}
    (built : w.build a = .ok (plan, counter)) (probes : List Tactic.Probe) :
    ∃ effective, plan.code.withChecks.instrument.1.resolve? probes = some effective ∧
      plan.code.withChecks.instrument.1.successMessageFor (effective.source true) =
        effective.messages.success :=
  Tactic.toldMessage (answerFlat (buildAnswer built)) (answerTold (buildAnswer built)) probes

def commaStatement : Action :=
  { selection := ["h"], statement := some "t, rw t at h" }

def oneHypothesis : Workbench :=
  { goal := { context := [{ term := .localConstant "h" "1" (.leaf .truth) }],
              target := .leaf .truth } }

def commaPlan : Plan :=
  { code := .choice none
      (tactic "rw t, rw t at h at h" "Definition t, rw t at h applied to h")
      [tactic "have H1 := t, rw t at h h" "Property H1 added"] }

theorem firedMessageOfCommas : ∃ effective,
    commaPlan.code.withChecks.instrument.1.resolve? [(0, 1)] = some effective ∧
      commaPlan.code.withChecks.instrument.1.successMessageFor (effective.source true) =
        effective.messages.success :=
  firedMessage (rfl : oneHypothesis.build commaStatement = .ok (commaPlan, 1)) [(0, 1)]

end ProofTutor.Workbench
