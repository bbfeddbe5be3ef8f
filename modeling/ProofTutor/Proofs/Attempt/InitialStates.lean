import ProofTutor.Attempt.InitialStates
import ProofTutor.Proofs.Attempt.Completion
import ProofTutor.Proofs.Course.BatchLines

/-! The initial states of many exercises from the messages on one file. The result of an exercise is
made of the messages on its own two lines, their first error or their last dumps, so nothing that the
prover says of other lines can change it. -/
namespace ProofTutor

def Message.On (line : Nat) (m : Message) : Prop :=
  m.line = line ∨ m.line = line + 1

instance (line : Nat) (m : Message) : Decidable (m.On line) :=
  inferInstanceAs (Decidable (_ ∨ _))

namespace InitialStates

def ownMessages (f : BatchFile) (exercise : Nat) (messages : List Message) : List Message :=
  messages.filter fun m => (f.linesOf? exercise).any fun (context, targets) =>
    m.line = context ∨ m.line = targets

def firstError (own : List Message) : Option Message :=
  own.find? (·.severity = .error)

def lastPrint (header : List Char) (line : Nat) (own : List Message) : Option Message :=
  (own.filter (·.Prints header line)).getLast?

def ownDumps (line : Nat) (own : List Message) : Dumps :=
  { context := (lastPrint Dump.contextHeader line own).map (Text.trim ·.text)
    targets := (lastPrint Dump.targetsHeader (line + 1) own).map (Text.trim ·.text)
    error := (firstError own).map (Text.trim ·.text) }

def ownState (naming : Naming) (line : Nat) (own : List Message) : Except StepFailure ProofState :=
  match firstError own, lastPrint Dump.contextHeader line own,
    lastPrint Dump.targetsHeader (line + 1) own with
  | some error, _, _ => .error (.rejected (Text.trim error.text) (some line))
  | none, some context, some targets =>
    (Dump.decode naming (Text.trim context.text) (Text.trim targets.text)).state?.mapError .ofWarnings
  | none, _, _ => .error .noProofState

/-! ### One message -/

theorem printsHeader {header : List Char} {line : Nat} {m : Message} : m.Prints header line ↔
    m.severity ≠ .error ∧ m.line = line ∧ hasHeader header (Text.trim m.text) = true := by
  rw [hasHeader, Text.trim, String.toList_ofList, Text.headSome, Message.Prints]

theorem noteOwn (d : Dumps) {m : Message} {line : Nat} {part : Analysis}
    (here : m.line = line + part.offset) :
    d.note m.severity part (Text.trim m.text) =
      { context := if m.Prints Dump.contextHeader line then some (Text.trim m.text) else d.context
        targets := if m.Prints Dump.targetsHeader (line + 1) then some (Text.trim m.text)
          else d.targets
        error := d.error.or (if m.severity = .error then some (Text.trim m.text) else none) } := by
  simp only [printsHeader, here]
  cases part <;> cases m.severity
  case context.error | targets.error => simp [Dumps.note]
  case context.information | context.warning | targets.information | targets.warning =>
    simp only [Dumps.note, Analysis.offset]
    split <;> simp [*]

/-! ### One exercise -/

structure Placed (f : BatchFile) (exercise line : Nat) : Prop where
  lines : f.linesOf? exercise = some (line, line + 1)
  asked : ∀ there part, f.exerciseAt? there = some (exercise, part) ↔ there = line + part.offset

theorem mappedPlaced {f : BatchFile} {source : List String} {es : List Exercise} {sequence : Nat}
    (mapped : f.Mapped source es sequence) {exercise : Nat} {e : Exercise}
    (found : es[exercise]? = some e) : ∃ line, Placed f exercise line := by
  obtain ⟨line, lines, -, -, context, targets, -, -⟩ := mapped.placed exercise e found
  refine ⟨line,lines,fun there part => ⟨fun asked => ?_,?_⟩⟩
  · obtain ⟨-, first, same, place⟩ := mapped.only there exercise part asked
    rw [lines] at same
    cases same
    exact place
  · rintro rfl
    cases part with
    | context => exact context
    | targets => exact targets

theorem onPart {m : Message} {line : Nat} :
    m.On line ↔ ∃ part : Analysis, m.line = line + part.offset := by
  constructor
  · rintro (context | targets)
    · exact ⟨.context,context⟩
    · exact ⟨.targets,targets⟩
  · rintro ⟨context | targets, here⟩
    · exact .inl here
    · exact .inr here

theorem foldlFields (context targets error : Option String → Message → Option String)
    (messages : List Message) (d : Dumps) :
    messages.foldl (fun d m =>
      ({ context := context d.context m, targets := targets d.targets m, error := error d.error m } :
        Dumps)) d =
      { context := messages.foldl context d.context
        targets := messages.foldl targets d.targets
        error := messages.foldl error d.error } := by
  induction messages generalizing d with
  | nil => rfl
  | cons m messages ih => exact ih _

section Placed
variable {f : BatchFile} {exercise line : Nat} (placed : Placed f exercise line)
include placed

theorem ownPlaced (messages : List Message) :
    ownMessages f exercise messages = messages.filter (·.On line) := by
  simp only [ownMessages, placed.lines, Option.any_some]
  rfl

theorem noteStep (d : Dumps) (m : Message) :
    (match f.exerciseAt? m.line with
      | some (i, part) =>
        if i = exercise then d.note m.severity part (Text.trim m.text) else d
      | none => d) =
      { context := if m.Prints Dump.contextHeader line then some (Text.trim m.text) else d.context
        targets := if m.Prints Dump.targetsHeader (line + 1) then some (Text.trim m.text)
          else d.targets
        error := d.error.or
          (if m.On line ∧ m.severity = .error then some (Text.trim m.text) else none) } := by
  by_cases own : m.On line
  · obtain ⟨part, here⟩ := onPart.mp own
    rw [(placed.asked m.line part).mpr here]
    simp only [if_true, noteOwn d here, own, true_and]
  · have context : ¬ m.Prints Dump.contextHeader line :=
      fun prints => own (onPart.mpr ⟨.context,prints.2.1⟩)
    have targets : ¬ m.Prints Dump.targetsHeader (line + 1) :=
      fun prints => own (onPart.mpr ⟨.targets,prints.2.1⟩)
    rw [if_neg context, if_neg targets, if_neg (fun error => own error.1), Option.or_none]
    split
    · rename_i i part asked
      refine if_neg fun same => own (onPart.mpr ⟨part,?_⟩)
      exact (placed.asked m.line part).mp (same ▸ asked)
    · rfl

theorem lastPrintOwn (header : List Char) (part : Analysis) (messages : List Message) :
    lastPrint header (line + part.offset) (ownMessages f exercise messages) =
      lastPrint header (line + part.offset) messages := by
  rw [lastPrint, lastPrint, ownPlaced placed, List.filter_filter]
  congr 1
  refine List.filter_congr fun m _ => ?_
  have own : m.Prints header (line + part.offset) → m.On line :=
    fun prints => onPart.mpr ⟨part,prints.2.1⟩
  rw [← Bool.decide_and, decide_eq_decide]
  exact and_iff_left_of_imp own

theorem foldlPrints (header : List Char) (part : Analysis) (messages : List Message) :
    messages.foldl (fun found m =>
        if m.Prints header (line + part.offset) then some (Text.trim m.text) else found) none =
      (lastPrint header (line + part.offset) (ownMessages f exercise messages)).map
        (Text.trim ·.text) := by
  rw [Report.foldlLast, Option.or_none, lastPrintOwn placed, lastPrint]

theorem foldlErrors (messages : List Message) :
    messages.foldl (fun (found : Option String) m =>
        found.or (if m.On line ∧ m.severity = .error then some (Text.trim m.text) else none)) none =
      (firstError (ownMessages f exercise messages)).map (Text.trim ·.text) := by
  rw [Report.foldlFirst, Option.none_or, firstError, ownPlaced placed, List.find?_filter]
  simp only [Bool.decide_and, Bool.decide_eq_true]

theorem dumpsOwn (messages : List Message) :
    dumpsOf f messages exercise = ownDumps line (ownMessages f exercise messages) := by
  have fields := foldlFields
    (fun found m => if m.Prints Dump.contextHeader line then some (Text.trim m.text) else found)
    (fun found m => if m.Prints Dump.targetsHeader (line + 1) then some (Text.trim m.text)
      else found)
    (fun found m => found.or
      (if m.On line ∧ m.severity = .error then some (Text.trim m.text) else none)) messages {}
  have steps := congrArg (messages.foldl · {}) (funext₂ (noteStep placed))
  rw [dumpsOf, ownDumps]
  refine (steps.trans fields).trans ?_
  rw [Dumps.mk.injEq]
  exact ⟨foldlPrints placed _ .context messages,foldlPrints placed _ .targets messages,
    foldlErrors placed messages⟩

theorem stateOwn (naming : Naming) (messages : List Message) :
    stateOf naming f messages exercise =
      ownState naming line (ownMessages f exercise messages) := by
  rw [stateOf, dumpsOwn placed, placed.lines, ownState, ownDumps]
  generalize ownMessages f exercise messages = own
  cases firstError own <;> cases lastPrint Dump.contextHeader line own <;>
    cases lastPrint Dump.targetsHeader (line + 1) own <;> rfl

end Placed

/-! ### All exercises -/

structure Separate (naming : Naming) (f : BatchFile) (es : List Exercise)
    (results : List Message → List (Exercise × Except StepFailure ProofState)) : Prop where
  entries : ∀ messages, (results messages).map Prod.fst = es
  isolated : ∀ i messages others, ownMessages f i messages = ownMessages f i others →
    (results messages)[i]? = (results others)[i]?
  failed : ∀ i e messages error, es[i]? = some e →
    firstError (ownMessages f i messages) = some error →
    (results messages)[i]? =
      some (e, .error (.rejected (Text.trim error.text) ((f.linesOf? i).map Prod.fst)))
  stated : ∀ i e messages state, (results messages)[i]? = some (e, .ok state) →
    (∀ m ∈ ownMessages f i messages, m.severity ≠ .error) ∧
    ∃ line context targets, f.linesOf? i = some (line, line + 1) ∧
      lastPrint Dump.contextHeader line messages = some context ∧
      lastPrint Dump.targetsHeader (line + 1) messages = some targets ∧
      (Dump.decode naming (Text.trim context.text) (Text.trim targets.text)).state? = .ok state

theorem firstErrorNone {own : List Message} :
    firstError own = none ↔ ∀ m ∈ own, m.severity ≠ .error := by
  simp [firstError]

theorem statedOwn {naming : Naming} {line : Nat} {own : List Message} {state : ProofState}
    (stated : ownState naming line own = .ok state) :
    firstError own = none ∧ ∃ context targets,
      lastPrint Dump.contextHeader line own = some context ∧
      lastPrint Dump.targetsHeader (line + 1) own = some targets ∧
      (Dump.decode naming (Text.trim context.text) (Text.trim targets.text)).state? = .ok state := by
  rw [ownState] at stated
  split at stated
  · contradiction
  · rename_i context targets quiet first second
    refine ⟨quiet,context,targets,first,second,?_⟩
    cases decoded : (Dump.decode naming (Text.trim context.text) (Text.trim targets.text)).state? with
    | error warnings => simp [decoded, Except.mapError] at stated
    | ok read => simpa [decoded, Except.mapError] using stated
  · contradiction

theorem statesSeparate {f : BatchFile} {source : List String} {es : List Exercise} {sequence : Nat}
    (mapped : es ≠ [] → f.Mapped source es sequence) (naming : Naming) :
    Separate naming f es fun messages => states naming f es (.ok messages) := by
  have entry (i : Nat) (messages : List Message) : (states naming f es (.ok messages))[i]? =
      es[i]?.map fun e => (e,stateOf naming f messages i) := by
    rw [states, List.getElem?_map, List.getElem?_zipIdx, Option.map_map, Nat.zero_add]
    rfl
  have placed {i : Nat} {e : Exercise} (found : es[i]? = some e) : ∃ line, Placed f i line :=
    mappedPlaced (mapped (List.ne_nil_of_mem (List.mem_of_getElem? found))) found
  refine ⟨?entries,?isolated,?failed,?stated⟩
  case entries =>
    intro messages
    rw [states, List.map_map]
    exact List.zipIdx_map_fst 0 es
  case isolated =>
    intro i messages others same
    rw [entry, entry]
    cases found : es[i]? with
    | none => rfl
    | some e =>
      obtain ⟨line, placed⟩ := placed found
      rw [stateOwn placed, stateOwn placed, same]
  case failed =>
    intro i e messages error found first
    obtain ⟨line, placed⟩ := placed found
    rw [entry, found, stateOwn placed, ownState, first, placed.lines]
    rfl
  case stated =>
    intro i e messages state there
    rw [entry] at there
    obtain ⟨e', found, same⟩ := Option.map_eq_some_iff.mp there
    obtain ⟨line, placed⟩ := placed found
    have result : ownState naming line (ownMessages f i messages) = .ok state := by
      rw [← stateOwn placed]
      exact congrArg Prod.snd same
    obtain ⟨quiet, context, targets, first, second, decoded⟩ := statedOwn result
    have firstPrint := lastPrintOwn placed Dump.contextHeader .context messages
    have secondPrint := lastPrintOwn placed Dump.targetsHeader .targets messages
    exact ⟨firstErrorNone.mp quiet,line,context,targets,placed.lines,firstPrint.symm.trans first,
      secondPrint.symm.trans second,decoded⟩

/-- For exercises that a file is built for, one check of the file is asked, and its messages give the
results of the exercises in their order, each from the messages on its own lines. -/
theorem exercisesSeparate {c : Course} {es : List Exercise} {sequence : Nat} {f : BatchFile}
    (built : BatchFile.build c es sequence = .ok f) (naming : Naming) :
    ∃ d, request c es naming sequence = .ok (f, d) ∧
      (∀ {σ : Type} (p : Dialog.Prover σ) (s : σ) messages,
        (p.check f.content s).1 = .ok messages → (d.run p s).1 = states naming f es (.ok messages)) ∧
      Separate naming f es fun messages => states naming f es (.ok messages) := by
  refine ⟨.check f.content fun answer => .done (states naming f es answer),?_,?_,?_⟩
  · rw [request, built]
    rfl
  · intro σ p s messages answered
    rw [Dialog.run, ← answered]
    rfl
  · exact statesSeparate (fun nonempty => BatchFile.builtMapped built nonempty) naming

def twoLemmas : Course :=
  { source := "lemma a : p :=\nbegin\nend\nlemma b : q :=\nbegin\nend\n" }

def twoOfThem : List Exercise :=
  [{ name := "b", beginLine := 5, endLine := 6 }, { name := "a", beginLine := 2, endLine := 3 }]

theorem exercisesSeparateTwo :
    let said (line : Nat) (severity : Severity) (text : String) : Message :=
      { file := "t", line, column := 0, severity, text }
    let own := [said 9 .information "targets:", said 9 .error " no ", said 8 .error "never"]
    let one := said 8 .information "context:" :: (own ++ [said 3 .error "bad"])
    let other := said 3 .information "context:" :: said 8 .information "context:" :: own
    ∃ f, BatchFile.build twoLemmas twoOfThem 1 = .ok f ∧
      (states {} f twoOfThem (.ok one)).map Prod.fst = twoOfThem ∧
      (states {} f twoOfThem (.ok one))[0]? = (states {} f twoOfThem (.ok other))[0]? ∧
      (states {} f twoOfThem (.ok one))[0]? =
        some (twoOfThem[0], .error (.rejected "no" (some 8))) := by
  intro said own one other
  obtain ⟨content, built⟩ : ∃ content, BatchFile.build twoLemmas twoOfThem 1 =
      .ok { content, sequence := 1, markers := [⟨1,3⟩, ⟨0,8⟩] } := ⟨_,by cbv⟩
  obtain ⟨-, -, -, separate⟩ := exercisesSeparate built {}
  refine ⟨_,built,separate.entries one,separate.isolated 0 one other (by rfl),?_⟩
  have failed := separate.failed 0 twoOfThem[0] one (said 9 .error " no ") rfl (by rfl)
  have trimmed : Text.trim (said 9 .error " no ").text = "no" := by decide +kernel
  rw [trimmed] at failed
  exact failed

end InitialStates

end ProofTutor
