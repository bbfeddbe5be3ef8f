import ProofTutor.Attempt.Basic
import ProofTutor.Proofs.Course.LiveLines
import ProofTutor.Proofs.Dump.Splitting

/-!
When a proof is finished. A report has a state without goals exactly if the prover reported no error
in the new lines and said that nothing is left, in an error on an analysis line or in its last dump of
targets.
-/
namespace ProofTutor

structure LiveFile.Ordered (f : LiveFile) : Prop where
  targets : f.targetsLine = f.contextLine + 1
  close : f.endLine = f.contextLine + 2
  new : ∀ line, f.inNewLines line = true → line < f.contextLine

theorem Assembler.liveStepOrdered (a : Assembler) (accepted : List String) (code? : Option String) :
    (a.liveStep accepted code?).1.Ordered := by
  obtain ⟨context, targets, close, unchanged, written⟩ := liveStepNumbers a accepted code?
  refine ⟨by omega,by omega,?_⟩
  intro line inside
  rw [LiveFile.inNewLines] at inside
  rcases eq_or_ne (newCodeLines code?) [] with empty | nonempty
  · rw [unchanged empty] at inside
    cases inside
  · rw [written nonempty] at inside
    simp only [Bool.and_eq_true, decide_eq_true_eq] at inside
    omega

namespace Message

def Fails (f : LiveFile) (m : Message) : Prop :=
  m.severity = .error ∧ f.inNewLines m.line = true

def Finishes (f : LiveFile) (m : Message) : Prop :=
  m.severity = .error ∧ f.isAnalysisLine m.line = true ∧
    Vocabulary.noGoalsMark.toList <:+: m.text.toList

def Prints (header : List Char) (line : Nat) (m : Message) : Prop :=
  m.severity ≠ .error ∧ m.line = line ∧ header <+: Text.strip m.text.toList

instance (f : LiveFile) (m : Message) : Decidable (m.Fails f) :=
  inferInstanceAs (Decidable (_ ∧ _))

instance (f : LiveFile) (m : Message) : Decidable (m.Finishes f) :=
  inferInstanceAs (Decidable (_ ∧ _ ∧ _))

instance (header : List Char) (line : Nat) (m : Message) : Decidable (m.Prints header line) :=
  inferInstanceAs (Decidable (_ ∧ _ ∧ _))

end Message

namespace Report

def told (messages : List Message) : List Message :=
  messages.filter fun m => !Text.contains m.text Vocabulary.probeMark

/-! ### One message -/

section Note
variable {f : LiveFile} {m : Message}

theorem probeTrim (text : String) : Text.contains (Text.trim text) Vocabulary.probeMark =
    Text.contains text Vocabulary.probeMark :=
  Text.containsTrim (by decide +kernel) (by decide +kernel) text

theorem noGoalsTrim {text : String} : Text.contains (Text.trim text) Vocabulary.noGoalsMark = true ↔
    Vocabulary.noGoalsMark.toList <:+: text.toList := by
  rw [Text.containsTrim (by decide +kernel) (by decide +kernel), Text.containsInfix]

theorem analysisApart (ordered : f.Ordered) {line : Nat} (analysis : f.isAnalysisLine line = true) :
    f.inNewLines line = false := by
  refine Bool.eq_false_iff.mpr fun inside => ?_
  have before := ordered.new line inside
  have below := ordered.targets
  rw [LiveFile.isAnalysisLine, Bool.or_eq_true, beq_iff_eq, beq_iff_eq] at analysis
  omega

theorem closeApart (ordered : f.Ordered) {line : Nat} (close : f.endLine ≤ line) :
    f.inNewLines line = false ∧ f.isAnalysisLine line = false := by
  have below := ordered.targets
  have last := ordered.close
  refine ⟨Bool.eq_false_iff.mpr fun inside => ?_,Bool.eq_false_iff.mpr fun analysis => ?_⟩
  · have before := ordered.new line inside
    omega
  · rw [LiveFile.isAnalysisLine, Bool.or_eq_true, beq_iff_eq, beq_iff_eq] at analysis
    omega

theorem noteProbe (r : Report) (probe : Text.contains m.text Vocabulary.probeMark = true) :
    ∃ probes, note f r m = { r with probes } := by
  rw [note, probeTrim, if_pos probe]
  exact ⟨_,rfl⟩

theorem errorTold (ordered : f.Ordered) (r : Report)
    (quiet : Text.contains m.text Vocabulary.probeMark = false) (error : m.severity = .error) :
    note f r m =
      { r with
        failure := r.failure.or
          (if m.Fails f then some (failureOf (Text.trim m.text) m.line) else none)
        noGoals := r.noGoals || decide (m.Finishes f) } := by
  rw [note, probeTrim, if_neg (by simp [quiet]), if_pos error, Report.noteError]
  split
  · rename_i notice
    obtain ⟨analysis, said⟩ := Bool.and_eq_true_iff.mp notice
    have finishes : m.Finishes f := ⟨error,analysis,noGoalsTrim.mp said⟩
    have passes : ¬ m.Fails f := fun fails => by
      simpa [analysisApart ordered analysis] using fails.2
    simp [finishes, passes]
  · rename_i other
    have goesOn : ¬ m.Finishes f := fun finishes =>
      other (Bool.and_eq_true_iff.mpr ⟨finishes.2.1,noGoalsTrim.mpr finishes.2.2⟩)
    split
    · rename_i closing
      have close := of_decide_eq_true (Bool.and_eq_true_iff.mp closing).1
      have passes : ¬ m.Fails f := fun fails => by simpa [closeApart ordered close] using fails.2
      simp [goesOn, passes]
    · split
      · rename_i inside
        have fails : m.Fails f := ⟨error,inside⟩
        simp [goesOn, fails]
      · rename_i outside
        have passes : ¬ m.Fails f := fun fails => outside fails.2
        simp [goesOn, passes]

theorem printTold (ordered : f.Ordered) (r : Report)
    (quiet : Text.contains m.text Vocabulary.probeMark = false) (other : m.severity ≠ .error) :
    note f r m =
      { r with
        context := if m.Prints Dump.contextHeader f.contextLine then some (Text.trim m.text)
          else r.context
        targets := if m.Prints Dump.targetsHeader f.targetsLine then some (Text.trim m.text)
          else r.targets } := by
  have below := ordered.targets
  have shown {header : List Char} {line : Nat} : m.Prints header line ↔
      m.line = line ∧ (Text.stripHead? header (Text.trim m.text).toList).isSome := by
    rw [Text.trim, String.toList_ofList, Text.headSome]
    exact and_iff_right other
  rw [note, probeTrim, if_neg (by simp [quiet]), if_neg other, Report.notePrint]
  by_cases context : m.Prints Dump.contextHeader f.contextLine
  · have targets : ¬ m.Prints Dump.targetsHeader f.targetsLine := fun targets => by
      have here := context.2.1
      have there := targets.2.1
      omega
    rw [if_pos (shown.mp context), if_pos context, if_neg targets]
  · rw [if_neg (fun found => context (shown.mpr found)), if_neg context]
    by_cases targets : m.Prints Dump.targetsHeader f.targetsLine
    · rw [if_pos (shown.mp targets), if_pos targets]
    · rw [if_neg (fun found => targets (shown.mpr found)), if_neg targets]

theorem noteTold (ordered : f.Ordered) (r : Report)
    (quiet : Text.contains m.text Vocabulary.probeMark = false) :
    note f r m =
      { r with
        failure := r.failure.or
          (if m.Fails f then some (failureOf (Text.trim m.text) m.line) else none)
        noGoals := r.noGoals || decide (m.Finishes f)
        context := if m.Prints Dump.contextHeader f.contextLine then some (Text.trim m.text)
          else r.context
        targets := if m.Prints Dump.targetsHeader f.targetsLine then some (Text.trim m.text)
          else r.targets } := by
  by_cases error : m.severity = .error
  · have silent {header : List Char} {line : Nat} : ¬ m.Prints header line := fun prints =>
      prints.1 error
    rw [errorTold ordered r quiet error, if_neg silent, if_neg silent]
  · have passes : ¬ m.Fails f := fun fails => error fails.1
    have goesOn : ¬ m.Finishes f := fun finishes => error finishes.1
    rw [printTold ordered r quiet error]
    simp [passes, goesOn]

end Note

/-! ### All messages -/

theorem readField {β : Type} {f : LiveFile} (field : Report → β) (step : β → Message → β)
    (own : ∀ r m, Text.contains m.text Vocabulary.probeMark = false →
      field (note f r m) = step (field r) m)
    (probes : ∀ (r : Report) probes, field { r with probes } = field r) (r : Report)
    (messages : List Message) :
    field (messages.foldl (note f) r) = (told messages).foldl step (field r) := by
  induction messages generalizing r with
  | nil => rfl
  | cons m messages ih =>
    rw [List.foldl_cons, ih]
    by_cases probe : Text.contains m.text Vocabulary.probeMark = true
    · obtain ⟨found, same⟩ := noteProbe (f := f) r probe
      rw [same, probes, told, told, List.filter_cons_of_neg (by simp [probe])]
    · have quiet := Bool.eq_false_iff.mpr probe
      rw [own r m quiet, told, told, List.filter_cons_of_pos (by simp [quiet]), List.foldl_cons]

theorem foldlLast {α β : Type} (p : α → Prop) [DecidablePred p] (g : α → β) (first : Option β)
    (xs : List α) : xs.foldl (fun found x => if p x then some (g x) else found) first =
      ((xs.filter (p ·)).getLast?.map g).or first := by
  induction xs generalizing first with
  | nil => rfl
  | cons x xs ih =>
    rw [List.foldl_cons, ih]
    by_cases here : p x
    · rw [if_pos here, List.filter_cons_of_pos (by simpa using here), List.getLast?_cons]
      cases (xs.filter (p ·)).getLast? <;> rfl
    · rw [if_neg here, List.filter_cons_of_neg (by simpa using here)]

theorem foldlFirst {α β : Type} (p : α → Prop) [DecidablePred p] (g : α → β) (first : Option β)
    (xs : List α) : xs.foldl (fun found x => found.or (if p x then some (g x) else none)) first =
      first.or ((xs.find? (p ·)).map g) := by
  induction xs generalizing first with
  | nil => simp
  | cons x xs ih =>
    rw [List.foldl_cons, ih, Option.or_assoc]
    by_cases here : p x <;> simp [here]

theorem foldlAny {α : Type} (p : α → Prop) [DecidablePred p] (first : Bool) (xs : List α) :
    xs.foldl (fun found x => found || decide (p x)) first = (first || xs.any (p ·)) := by
  induction xs generalizing first with
  | nil => simp
  | cons x xs ih => rw [List.foldl_cons, ih, List.any_cons, Bool.or_assoc]

section Read
variable {f : LiveFile} (ordered : f.Ordered) (messages : List Message)
include ordered

theorem readFailure : (read f messages).failure =
    ((told messages).find? (·.Fails f)).map fun m => failureOf (Text.trim m.text) m.line := by
  rw [read, readField Report.failure
    (fun found m => found.or (if m.Fails f then some (failureOf (Text.trim m.text) m.line) else none))
    (fun r m quiet => by rw [noteTold ordered r quiet]) (fun _ _ => rfl), foldlFirst]
  exact Option.none_or

theorem readNoGoals : (read f messages).noGoals = (told messages).any (·.Finishes f) := by
  rw [read, readField Report.noGoals (fun found m => found || decide (m.Finishes f))
    (fun r m quiet => by rw [noteTold ordered r quiet]) (fun _ _ => rfl), foldlAny]
  exact Bool.false_or _

theorem readContext : (read f messages).context =
    ((told messages).filter (·.Prints Dump.contextHeader f.contextLine)).getLast?.map
      (Text.trim ·.text) := by
  rw [read, readField Report.context
    (fun found m => if m.Prints Dump.contextHeader f.contextLine then some (Text.trim m.text)
      else found)
    (fun r m quiet => by rw [noteTold ordered r quiet]) (fun _ _ => rfl), foldlLast]
  exact Option.or_none

theorem readTargets : (read f messages).targets =
    ((told messages).filter (·.Prints Dump.targetsHeader f.targetsLine)).getLast?.map
      (Text.trim ·.text) := by
  rw [read, readField Report.targets
    (fun found m => if m.Prints Dump.targetsHeader f.targetsLine then some (Text.trim m.text)
      else found)
    (fun r m quiet => by rw [noteTold ordered r quiet]) (fun _ _ => rfl), foldlLast]
  exact Option.or_none

end Read

/-! ### States -/

theorem stateEmpty {naming : Naming} {r : Report} :
    (∃ s, r.state naming = .ok s ∧ s.goalCount = 0) ↔
      r.failure = none ∧ (r.noGoals = true ∨ ∃ context targets, r.context = some context ∧
        r.targets = some targets ∧ Dump.targetTexts targets.toList = []) := by
  rw [state]
  cases r.failure with
  | some failure => simp
  | none =>
    cases r.noGoals with
    | true => simp [ProofState.goalCount]
    | false =>
      cases r.context with
      | none => simp
      | some context =>
        cases r.targets with
        | none => simp
        | some targets =>
          have decoded : (∃ s, (Dump.decode naming context targets).state? = .ok s ∧
              s.goalCount = 0) ↔ _ := Dump.decodedEmpty
          cases shown : (Dump.decode naming context targets).state? with
          | error warnings => simpa [shown, Except.mapError] using decoded
          | ok s => simpa [shown, Except.mapError] using decoded

theorem targetsSpent {m : Message} {line : Nat} (prints : m.Prints Dump.targetsHeader line) :
    Dump.targetTexts (Text.trim m.text).toList = [] ↔
      ∃ rest, Text.strip m.text.toList = Dump.targetsHeader ++ rest ∧
        Dump.Spent (Text.strip rest) := by
  obtain ⟨rest, same⟩ := prints.2.2
  have body : Dump.dropHeader Dump.targetsHeader (Dump.targetsHeader ++ rest) = rest := by
    have start : Text.dropBlanks (Dump.targetsHeader ++ rest) = Dump.targetsHeader ++ rest := by rfl
    rw [Dump.dropHeader, start, Text.stripHeadSome.mpr rfl]
    rfl
  rw [Dump.targetTextsNil, Text.trim, String.toList_ofList, ← same, body]
  constructor
  · intro spent
    exact ⟨rest,rfl,spent⟩
  · rintro ⟨other, header, spent⟩
    rwa [List.append_cancel_left header]

def SaysFinished (f : LiveFile) (messages : List Message) : Prop :=
  (∃ m ∈ messages, m.Finishes f) ∨
    (∃ m ∈ messages, m.Prints Dump.contextHeader f.contextLine) ∧
    ∃ m rest, (messages.filter (·.Prints Dump.targetsHeader f.targetsLine)).getLast? = some m ∧
      Text.strip m.text.toList = Dump.targetsHeader ++ rest ∧ Dump.Spent (Text.strip rest)

theorem finishedRead {f : LiveFile} (ordered : f.Ordered) (messages : List Message) :
    ((read f messages).noGoals = true ∨ ∃ context targets, (read f messages).context = some context ∧
      (read f messages).targets = some targets ∧ Dump.targetTexts targets.toList = []) ↔
      SaysFinished f (told messages) := by
  rw [readNoGoals ordered, readContext ordered, readTargets ordered]
  refine or_congr (by simp) ⟨?_,?_⟩
  · rintro ⟨context, targets, contextRead, targetsRead, spent⟩
    obtain ⟨shown, lastContext, rfl⟩ := Option.map_eq_some_iff.mp contextRead
    obtain ⟨m, lastTargets, rfl⟩ := Option.map_eq_some_iff.mp targetsRead
    obtain ⟨mem, prints⟩ := List.mem_filter.mp (List.mem_of_getLast? lastTargets)
    obtain ⟨rest, same, ended⟩ := (targetsSpent (of_decide_eq_true prints)).mp spent
    obtain ⟨memContext, printsContext⟩ := List.mem_filter.mp (List.mem_of_getLast? lastContext)
    exact ⟨⟨shown,memContext,of_decide_eq_true printsContext⟩,m,rest,lastTargets,same,ended⟩
  · rintro ⟨⟨shown, memContext, printsContext⟩, m, rest, lastTargets, same, ended⟩
    obtain ⟨mem, prints⟩ := List.mem_filter.mp (List.mem_of_getLast? lastTargets)
    have spent := (targetsSpent (of_decide_eq_true prints)).mpr ⟨rest,same,ended⟩
    have among : shown ∈ (told messages).filter (·.Prints Dump.contextHeader f.contextLine) :=
      List.mem_filter.mpr ⟨memContext,decide_eq_true printsContext⟩
    rw [lastTargets, List.getLast?_eq_some_getLast (List.ne_nil_of_mem among)]
    exact ⟨_,_,rfl,rfl,spent⟩

/-- A report has a state without goals exactly if there is no error in the new lines and the prover
said so; targets of which none can be read are refused; the first error in the new lines is the
failure. -/
theorem completionReported (a : Assembler) (accepted : List String) (code? : Option String)
    (messages : List Message) (naming : Naming) :
    let f := (a.liveStep accepted code?).1
    let report := read f messages
    ((∃ s, report.state naming = .ok s ∧ s.goalCount = 0) ↔
      (∀ m ∈ told messages, ¬ m.Fails f) ∧ SaysFinished f (told messages)) ∧
    (∀ context targets, Dump.targetTexts targets.toList ≠ [] →
      (∀ text ∈ Dump.targetTexts targets.toList, Record.read? text = none) →
      ∃ warnings, (Dump.decode naming context targets).state? = .error warnings) ∧
    (∀ m ∈ told messages, m.Fails f → ∃ first notice,
      (told messages).find? (·.Fails f) = some first ∧
      report.state naming = .error (.rejected (notice ++ Text.trim first.text) (some first.line))) := by
  intro f report
  have ordered : f.Ordered := a.liveStepOrdered accepted code?
  refine ⟨?_,?_,?_⟩
  · rw [stateEmpty, readFailure ordered, finishedRead ordered]
    simp
  · intro context targets nonempty malformed
    exact ⟨_,Dump.malformedRefused naming context nonempty malformed⟩
  · intro m mem fails
    have failing : ((told messages).find? (·.Fails f)).isSome := by simpa using ⟨m,mem,fails⟩
    obtain ⟨first, found⟩ := Option.isSome_iff_exists.mp failing
    have failure := readFailure ordered messages
    rw [found, Option.map_some, failureOf] at failure
    simp only [report, state, failure]
    split
    · exact ⟨first,_,found,rfl⟩
    · exact ⟨first,"",found,by rw [String.empty_append]⟩

theorem completionReportedBlankParts :
    let f := ((⟨"t",["begin"],[],none,0⟩ : Assembler).liveStep [] (some "trivial")).1
    let dumps : List Message :=
      [{ file := "t", line := 3, column := 2, severity := .information, text := "context:" },
        { file := "t", line := 4, column := 2, severity := .information, text := "targets:\n ¿¿¿\n" }]
    let error : Message := { file := "t", line := 2, column := 2, severity := .error, text := "no" }
    (∃ s, (read f dumps).state {} = .ok s ∧ s.goalCount = 0) ∧
      ∃ first notice, (told (error :: dumps)).find? (·.Fails f) = some first ∧
        (read f (error :: dumps)).state {} =
          .error (.rejected (notice ++ Text.trim first.text) (some first.line)) := by
  intro f dumps error
  have finished : SaysFinished f (told dumps) := by
    refine .inr ⟨by decide +kernel,dumps[1],"\n ¿¿¿".toList,by decide +kernel,by decide +kernel,?_⟩
    exact .inr (.inr ⟨[[],[]],by simp,by decide +kernel⟩)
  have passes : ∀ m ∈ told dumps, ¬ m.Fails f := by decide +kernel
  exact ⟨(completionReported _ [] (some "trivial") dumps {}).1.mpr ⟨passes,finished⟩,
    (completionReported _ [] (some "trivial") (error :: dumps) {}).2.2 error (by decide +kernel)
      (by decide +kernel)⟩

end Report

end ProofTutor
