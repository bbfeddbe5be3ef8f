import ProofTutor.Course.BatchFile
import ProofTutor.Proofs.Text.Basic
import ProofTutor.Proofs.Text.Rows

/-!
The line numbers of a step's file against the rows of its text. The file is counted in lines that
are pushed, one for each accepted step, so the numbers are right for steps of one row and too small
by one for every line feed inside an accepted step.
-/

namespace ProofTutor

def Feedless (lines : List String) : Prop :=
  ∀ line ∈ lines, '\n' ∉ line.toList

instance (lines : List String) : Decidable (Feedless lines) :=
  inferInstanceAs (Decidable (∀ line ∈ lines, _))

theorem Feedless.append {first second : List String} (one : Feedless first) (two : Feedless second) :
    Feedless (first ++ second) :=
  List.forall_mem_append.mpr ⟨one, two⟩

namespace Exercise

theorem negateInFeedless {core line negated : String} (whole : '\n' ∉ line.toList)
    (found : negateIn? core line = some negated) : '\n' ∉ negated.toList := by
  obtain ⟨⟨before, after⟩, cut, rfl⟩ := Option.map_eq_some_iff.mp found
  rw [Text.cutLastSource cut] at whole
  simp only [List.mem_append, not_or] at whole
  simp [whole.1.1, whole.1.2, whole.2]

theorem negateFirstFeedless {core : String} {lines : List String} (whole : Feedless lines) :
    Feedless (negateFirst core lines) := by
  induction lines with
  | nil => exact whole
  | cons line lines ih =>
    obtain ⟨here, later⟩ := List.forall_mem_cons.mp whole
    rw [negateFirst]
    split
    · rename_i negated found
      exact List.forall_mem_cons.mpr ⟨negateInFeedless here found, later⟩
    · exact List.forall_mem_cons.mpr ⟨here, ih later⟩

theorem negatedFeedless (e : Exercise) {lines : List String} (whole : Feedless lines) :
    Feedless (e.negated lines) := by
  rw [negated]
  split
  · rename_i core _ _
    have start : Feedless (lines.take e.beginLine).reverse :=
      fun line among => whole line (List.mem_of_mem_take (List.mem_reverse.mp among))
    have negatedStart : Feedless (negateFirst core (lines.take e.beginLine).reverse).reverse :=
      fun line among => negateFirstFeedless start line (List.mem_reverse.mp among)
    exact negatedStart.append fun line among => whole line (List.mem_of_mem_drop among)
  · exact whole

end Exercise

namespace Assembler

theorem startFits {c : Course} {e : Exercise} (fits : e.FitsIn c.lines.length) :
    start c e = .ok
      { name := e.name
        preamble := (e.negated c.lines).take e.beginLine
        closings := Block.closings ((e.negated c.lines).take e.beginLine) } := by
  rw [start, Course.check, if_pos fits]
  rfl

theorem startPreamble {c : Course} {e : Exercise} {a : Assembler} (started : start c e = .ok a) :
    Feedless a.preamble := by
  simp only [start, bind, Except.bind] at started
  split at started
  · contradiction
  · cases started
    have source : Feedless c.lines := fun line => Text.linesFeedless
    have whole := e.negatedFeedless source
    exact fun line among => whole line (List.mem_of_mem_take among)

def after (a : Assembler) (files : List (List String × Option String)) : Assembler :=
  files.foldl (fun a (accepted, code?) => (a.liveStep accepted code?).2) a

theorem afterKeeps {α : Type} (field : Assembler → α)
    (step : ∀ a accepted code?, field (liveStep a accepted code?).2 = field a) (a : Assembler)
    (files : List (List String × Option String)) : field (a.after files) = field a := by
  induction files generalizing a with
  | nil => rfl
  | cons file files ih => exact (ih (a.liveStep file.1 file.2).2).trans (step a file.1 file.2)

theorem afterPreamble (a : Assembler) (files : List (List String × Option String)) :
    (a.after files).preamble = a.preamble :=
  afterKeeps preamble (fun _ _ _ => rfl) a files

theorem afterClosings (a : Assembler) (files : List (List String × Option String)) :
    (a.after files).closings = a.closings :=
  afterKeeps closings (fun _ _ _ => rfl) a files

theorem indentedFeedless {line : String} (whole : '\n' ∉ line.toList) :
    '\n' ∉ (indented line).toList := by
  simpa [indented] using whole

theorem endWithCommaLast (lines : List String) (line : String) :
    endWithComma (lines ++ [line]) = lines ++ [line ++ ","] := by
  induction lines with
  | nil => rfl
  | cons first lines ih =>
    cases lines with
    | nil => rfl
    | cons second lines => simpa [endWithComma] using ih

def Given (code? : Option String) : Prop :=
  ∃ code, code? = some code ∧ Text.allBlank code = false

theorem givenLines {code : String} (written : Text.allBlank code = false) :
    ∃ lines line, Text.lines code = lines ++ [line] ∧
      newCodeLines (some code) = lines.map indented ++ [indented line ++ ","] := by
  have nonempty : code ≠ "" := by
    rintro rfl
    contradiction
  obtain empty | ⟨lines, line, ended⟩ := List.eq_nil_or_concat' (Text.lines code)
  · exact absurd empty (Text.linesSome nonempty)
  refine ⟨lines, line, ended, ?_⟩
  simp only [newCodeLines, Option.filter_some, written, Bool.not_false, if_true]
  rw [ended, List.map_append, List.map_singleton, endWithCommaLast]

theorem blankLines {code? : Option String} (blank : ¬Given code?) : newCodeLines code? = [] := by
  rw [newCodeLines]
  split
  · rename_i code kept
    obtain ⟨same, written⟩ := Option.filter_eq_some_iff.mp kept
    exact absurd ⟨code, same, by simpa using written⟩ blank
  · rfl

theorem newCodeFeedless (code? : Option String) : Feedless (newCodeLines code?) := by
  by_cases given : Given code?
  · obtain ⟨code, rfl, written⟩ := given
    obtain ⟨lines, line, ended, pushed⟩ := givenLines written
    have whole : Feedless (lines ++ [line]) := ended ▸ fun line => Text.linesFeedless
    obtain ⟨before, last⟩ := List.forall_mem_append.mp whole
    rw [pushed]
    refine Feedless.append ?_ ?_
    · exact List.forall_mem_map.mpr fun line among => indentedFeedless (before line among)
    · have plain := indentedFeedless (last line (List.mem_singleton_self line))
      exact List.forall_mem_singleton.mpr (by simpa using plain)
  · rw [blankLines given]
    exact List.forall_mem_nil _

def acceptedFeeds (accepted : List String) : Nat :=
  ((accepted.filter (!Text.allBlank ·)).flatMap String.toList).count '\n'

def acceptedRows (accepted : List String) : List String :=
  (acceptedLines accepted).flatMap Text.rowsOf

theorem acceptedRowsCount (accepted : List String) :
    (acceptedRows accepted).length = (acceptedLines accepted).length + acceptedFeeds accepted := by
  simp only [acceptedRows, acceptedLines, acceptedFeeds]
  induction accepted.filter (!Text.allBlank ·) with
  | nil => rfl
  | cons code codes ih =>
    have same : Text.feeds (indented code ++ ",") = code.toList.count '\n' := by
      simp [Text.feeds, indented]
    simp only [List.map_cons, List.flatMap_cons, List.length_append, List.length_cons,
      List.count_append, Text.rowsCount, same, ih]
    omega

theorem noFeeds {accepted : List String} :
    acceptedFeeds accepted = 0 ↔ Feedless (accepted.filter (!Text.allBlank ·)) := by
  simp only [acceptedFeeds, List.count_eq_zero, List.mem_flatMap, not_exists, not_and, Feedless]

def Note (note : List String) : Prop :=
  note = [] ∨ ∃ n : Nat, note = ["-- #" ++ toString n]

theorem liveStepContent (a : Assembler) (accepted : List String) (code? : Option String) :
    ∃ note, Note note ∧ (a.liveStep accepted code?).1.content =
      fileOf (a.preamble ++ acceptedLines accepted ++ newCodeLines code? ++ analysisLines ++
        "end" :: a.closings ++ note) := by
  simp only [liveStep]
  split
  · refine ⟨["-- #" ++ toString (a.repeats + 1)],.inr ⟨_,rfl⟩,?_⟩
    rw [fileOf, fileOf, Text.joinLast _ _ (by simp)]
    simp only [String.append_assoc]
  · exact ⟨[],.inl rfl,by rw [List.append_nil]⟩

theorem noteFeedless {note : List String} (shown : Note note) : Feedless note := by
  rcases shown with rfl | ⟨n, rfl⟩
  · exact List.forall_mem_nil _
  · have numeral := Text.numeralFeedless n
    rw [Text.numeralCharacters] at numeral
    simp [Feedless, numeral]

theorem liveStepRows {c : Course} {e : Exercise} {a : Assembler} (started : start c e = .ok a)
    (files : List (List String × Option String)) (accepted : List String) (code? : Option String) :
    ∃ note, Note note ∧ Text.rows ((a.after files).liveStep accepted code?).1.content =
      a.preamble ++ acceptedRows accepted ++ newCodeLines code? ++ analysisLines ++
        "end" :: (a.closings.flatMap Text.rowsOf ++ note) := by
  obtain ⟨note, shown, content⟩ := liveStepContent (a.after files) accepted code?
  have preamble : a.preamble.flatMap Text.rowsOf = a.preamble :=
    Text.flatMapFeedless (startPreamble started)
  have analysis : analysisLines.flatMap Text.rowsOf = analysisLines :=
    Text.flatMapFeedless (by decide +kernel)
  have last : Text.rowsOf "end" = ["end"] := Text.rowsFeedless (by decide +kernel)
  rw [afterPreamble, afterClosings] at content
  refine ⟨note,shown,?_⟩
  rw [content, fileOf, Text.rowsJoined (by simp)]
  simp only [List.flatMap_append, List.flatMap_cons, preamble, analysis, last,
    Text.flatMapFeedless (newCodeFeedless code?), Text.flatMapFeedless (noteFeedless shown)]
  simp [acceptedRows]

end Assembler

namespace LiveFile

def row? (f : LiveFile) : Nat → Option String
  | 0 => none
  | n + 1 => (Text.rows f.content)[n]?

theorem rowAfter {f : LiveFile} {before after : List String} {n : Nat} (k : Nat)
    (content : Text.rows f.content = before ++ after) (place : n = before.length + k + 1) :
    f.row? n = after[k]? := by
  rw [place, row?, content, List.getElem?_append_right (Nat.le_add_right _ _), Nat.add_sub_cancel_left]

def movedDown (f : LiveFile) (k : Nat) : LiveFile :=
  { f with
    newLines := f.newLines.map fun (first, last) => (first + k, last + k)
    contextLine := f.contextLine + k
    targetsLine := f.targetsLine + k
    endLine := f.endLine + k }

theorem movedDownNone (f : LiveFile) : f.movedDown 0 = f := by
  cases f
  simp [movedDown]

structure NumbersRows (f : LiveFile) (earlier : List String) (code? : Option String) : Prop where
  starts : earlier <+: Text.rows f.content
  context : f.row? f.contextLine = some "  hypo_analysis,"
  targets : f.row? f.targetsLine = some "  targets_analysis"
  close : f.row? f.endLine = some "end"
  given : f.newLines.isSome ↔ Assembler.Given code?
  new : ∀ {first last}, f.newLines = some (first, last) →
    earlier.length < first ∧ f.contextLine = last + 1 ∧
    ∃ code lines line, code? = some code ∧ Text.lines code = lines ++ [line] ∧
      ((Text.rows f.content).take last).drop (first - 1) =
        lines.map Assembler.indented ++ [Assembler.indented line ++ ","]

end LiveFile

namespace Assembler

theorem newCodeEmpty {code? : Option String} : newCodeLines code? = [] ↔ ¬Given code? := by
  refine ⟨?_, blankLines⟩
  rintro empty ⟨code, rfl, written⟩
  obtain ⟨lines, line, -, pushed⟩ := givenLines written
  simp [empty] at pushed

theorem liveStepNumbers (a : Assembler) (accepted : List String) (code? : Option String) :
    let f := (a.liveStep accepted code?).1
    let before := a.preamble.length + (acceptedLines accepted).length
    let upto := before + (newCodeLines code?).length
    f.contextLine = upto + 1 ∧ f.targetsLine = upto + 2 ∧ f.endLine = upto + 3 ∧
      (newCodeLines code? = [] → f.newLines = none) ∧
      (newCodeLines code? ≠ [] → f.newLines = some (before + 1, upto)) := by
  simp [liveStep]

theorem liveStepMoved {c : Course} {e : Exercise} {a : Assembler} (started : start c e = .ok a)
    (files : List (List String × Option String)) (accepted : List String) (code? : Option String) :
    (((a.after files).liveStep accepted code?).1.movedDown (acceptedFeeds accepted)).NumbersRows
      (a.preamble ++ acceptedRows accepted) code? := by
  obtain ⟨note, -, content⟩ := liveStepRows started files accepted code?
  have numbers := liveStepNumbers (a.after files) accepted code?
  rw [afterPreamble] at numbers
  obtain ⟨context, targets, close, unchanged, written⟩ := numbers
  generalize ((a.after files).liveStep accepted code?).1 = f at *
  have count : (a.preamble ++ acceptedRows accepted).length =
      a.preamble.length + (acceptedLines accepted).length + acceptedFeeds accepted := by
    rw [List.length_append, acceptedRowsCount, Nat.add_assoc]
  generalize a.preamble ++ acceptedRows accepted = earlier at *
  have analysis : analysisLines = ["  hypo_analysis,", "  targets_analysis"] := by decide +kernel
  rw [analysis, List.append_assoc] at content
  have upto : (earlier ++ newCodeLines code?).length = earlier.length + (newCodeLines code?).length :=
    List.length_append
  refine ⟨?starts, ?context, ?targets, ?close, ?given, ?new⟩
  case starts => exact ⟨newCodeLines code? ++ _, by rw [← List.append_assoc]; exact content.symm⟩
  case context => exact LiveFile.rowAfter 0 content (by simp only [LiveFile.movedDown]; omega)
  case targets => exact LiveFile.rowAfter 1 content (by simp only [LiveFile.movedDown]; omega)
  case close => exact LiveFile.rowAfter 2 content (by simp only [LiveFile.movedDown]; omega)
  case given =>
    rcases eq_or_ne (newCodeLines code?) [] with empty | nonempty
    · simp [LiveFile.movedDown, unchanged empty, newCodeEmpty.mp empty]
    · simpa [LiveFile.movedDown, written nonempty] using not_not.mp (mt newCodeEmpty.mpr nonempty)
  case new =>
    intro first last same
    rcases eq_or_ne (newCodeLines code?) [] with empty | nonempty
    · simp [LiveFile.movedDown, unchanged empty] at same
    · obtain ⟨code, rfl, given⟩ := not_not.mp (mt newCodeEmpty.mpr nonempty)
      obtain ⟨lines, line, ended, pushed⟩ := givenLines given
      simp only [LiveFile.movedDown, written nonempty, Option.map_some, Option.some.injEq,
        Prod.mk.injEq] at same
      have lastRow : last = (earlier ++ newCodeLines (some code)).length := by omega
      have firstRow : first - 1 = earlier.length := by omega
      refine ⟨by omega, by simp only [LiveFile.movedDown]; omega, code, lines, line, rfl, ended, ?_⟩
      rw [LiveFile.movedDown, content, lastRow, List.take_left, firstRow, List.drop_left, pushed]

/-- The numbers of a step's file, after any files, are those of its rows once they are moved down by
the feeds inside the accepted steps; with a new step they are right only if there is no such feed. -/
theorem liveLineNumbers {c : Course} {e : Exercise} {a : Assembler} (started : start c e = .ok a)
    (files : List (List String × Option String)) (accepted : List String) (code? : Option String) :
    let f := ((a.after files).liveStep accepted code?).1
    let earlier := a.preamble ++ acceptedRows accepted
    (f.movedDown (acceptedFeeds accepted)).NumbersRows earlier code? ∧
      (Feedless (accepted.filter (!Text.allBlank ·)) → f.NumbersRows earlier code?) ∧
      (Given code? → f.NumbersRows earlier code? →
        Feedless (accepted.filter (!Text.allBlank ·))) := by
  intro f earlier
  have moved : (f.movedDown (acceptedFeeds accepted)).NumbersRows earlier code? :=
    liveStepMoved started files accepted code?
  refine ⟨moved, fun whole => ?_, fun given real => ?_⟩
  · rw [noFeeds.mpr whole, f.movedDownNone] at moved
    exact moved
  · obtain ⟨-, -, -, -, written⟩ := liveStepNumbers (a.after files) accepted code?
    have starts := (real.new (written fun empty => newCodeEmpty.mp empty given)).1
    have count : earlier.length = a.preamble.length + (acceptedRows accepted).length :=
      List.length_append
    rw [acceptedRowsCount] at count
    rw [afterPreamble] at starts
    exact noFeeds.mp (by omega)

theorem liveLineNumbersOfOneRow :
    ∃ a, start { source := "lemma t : true :=\nbegin\n  sorry\nend\n" }
        { name := "t", beginLine := 2, endLine := 4 } = .ok a ∧
      ((a.after [([], none)]).liveStep ["intro h"] (some "split,\nsimp")).1.NumbersRows
        (a.preamble ++ acceptedRows ["intro h"]) (some "split,\nsimp") := by
  have started : start { source := "lemma t : true :=\nbegin\n  sorry\nend\n" }
      { name := "t", beginLine := 2, endLine := 4 } =
        .ok { name := "t", preamble := ["lemma t : true :=", "begin"], closings := [] } := by rfl
  exact ⟨_, started,
    (liveLineNumbers started [([], none)] ["intro h"] (some "split,\nsimp")).2.1 (by decide +kernel)⟩

/-- An accepted step of two rows: the line that is given for the context analysis holds the new
step, and the one given for the new step holds the end of the accepted one. -/
theorem liveLineNumbersMissed :
    ∃ a, start { source := "namespace n\nlemma t : true :=\nbegin\n  sorry\nend\nend n\n" }
        { name := "t", beginLine := 3, endLine := 5 } = .ok a ∧
      let f := (a.liveStep ["intro h,\nsplit"] (some "x")).1
      f.row? f.contextLine = some "  x," ∧ f.newLines = some (5, 5) ∧ f.row? 5 = some "split," ∧
        ¬f.NumbersRows (a.preamble ++ acceptedRows ["intro h,\nsplit"]) (some "x") := by
  refine ⟨{ name := "t", preamble := ["namespace n", "lemma t : true :=", "begin"],
            closings := ["end n"] }, by rfl, by decide +kernel, by decide +kernel,
          by decide +kernel, fun real => ?_⟩
  exact absurd real.context (by decide +kernel)

end Assembler

end ProofTutor
