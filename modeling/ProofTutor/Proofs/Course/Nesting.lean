import ProofTutor.Proofs.Course.LiveLines
import ProofTutor.Proofs.Course.Scanning
import ProofTutor.Proofs.Text.Rows

/-! The blocks of a step's file. The assembler keeps a stack of blocks that it never checks; beside it
stands a reader that refuses a line closing no block or one of another name. Where that reader accepts
the source before an exercise both have the same blocks, and it accepts the whole file to its end. -/
namespace ProofTutor

inductive LineMark where
  | opens (block : Block)
  | closes (name? : Option String)
  | neutral
  deriving DecidableEq, Repr

/-- Whether a word after `end,` names the block that is closed there is left open. -/
def lineMark (commaNames : Bool) (line : String) : LineMark :=
  match Course.wordsOf line with
  | "namespace" :: rest => .opens (.namespaceBlock (rest.head?.getD ""))
  | "section" :: rest => .opens (.sectionBlock rest.head?)
  | "end" :: rest => .closes rest.head?
  | "end," :: rest => .closes (if commaNames then rest.head? else none)
  | _ => if Course.Begins line then .opens .proofBlock else .neutral

namespace Block

def name? : Block → Option String
  | .namespaceBlock name => if name = "" then none else some name
  | .sectionBlock name? => name?
  | .proofBlock => none

def marked? (blocks : List Block) : LineMark → Option (List Block)
  | .opens block => some (block :: blocks)
  | .closes name? =>
    match blocks with
    | [] => none
    | block :: outer => if name? = none ∨ name? = block.name? then some outer else none
  | .neutral => some blocks

def nest? (commaNames : Bool) (blocks : List Block) (lines : List String) : Option (List Block) :=
  lines.foldlM (fun blocks line => marked? blocks (lineMark commaNames line)) blocks

end Block

variable {commaNames : Bool} {line : String}

/-! ### Marks of lines -/

theorem lineMarkSame {other : String} (words : Course.wordsOf line = Course.wordsOf other)
    (trimmed : Text.trim line = Text.trim other) :
    lineMark commaNames line = lineMark commaNames other := by
  have proof : Course.Begins line ↔ Course.Begins other := by
    rw [Course.Begins, Course.Begins, trimmed]
  rw [lineMark, lineMark, words]
  simp only [proof]

theorem lineMarkBlankStart {c : Char} (blank : Text.isBlank c = true) (cs : List Char) :
    lineMark commaNames (.ofList (c :: cs)) = lineMark commaNames (.ofList cs) := by
  refine lineMarkSame ?_ ?_
  · have parted := Text.wordsParted blank [] cs
    rw [List.nil_append] at parted
    rw [Course.wordsOf, Course.wordsOf, String.toList_ofList, String.toList_ofList, parted]
    rfl
  · rw [Text.trim, Text.trim, String.toList_ofList, String.toList_ofList, Text.stripBlankStart blank]

theorem lineMarkBlankEnd {c : Char} (blank : Text.isBlank c = true) (cs : List Char) :
    lineMark commaNames (.ofList (cs ++ [c])) = lineMark commaNames (.ofList cs) := by
  refine lineMarkSame ?_ ?_
  · have parted := Text.wordsParted blank cs []
    rw [Course.wordsOf, Course.wordsOf, String.toList_ofList, String.toList_ofList, parted]
    exact congrArg (List.map String.ofList) (List.append_nil _)
  · rw [Text.trim, Text.trim, String.toList_ofList, String.toList_ofList, Text.stripBlankEnd blank]

theorem lineMarkIndented (line : String) :
    lineMark commaNames (Assembler.indented line) = lineMark commaNames line := by
  have apart : Assembler.indented line = .ofList (' ' :: ' ' :: line.toList) := by
    simp [Assembler.indented, ← String.toList_inj]
  rw [apart, lineMarkBlankStart (by decide), lineMarkBlankStart (by decide), String.ofList_toList]

theorem lineMarkUnreturned (line : String) :
    lineMark commaNames (Text.unreturned line) = lineMark commaNames line := by
  rw [Text.unreturned]
  rcases Text.dropReturnCases line.toList with whole | ended
  · rw [← whole, String.ofList_toList]
  · rw [← lineMarkBlankEnd (c := '\r') (by decide), ← ended, String.ofList_toList]

def blockWords : List String := ["namespace", "section", "end", "end,"]

theorem neutralIff : lineMark commaNames line = .neutral ↔
    (∀ word ∈ (Course.wordsOf line).head?, word ∉ blockWords) ∧ ¬Course.Begins line := by
  rw [lineMark, blockWords]
  split
  case h_5 noNamespace noSection noEnd noComma =>
    cases same : Course.wordsOf line with
    | nil => simp
    | cons word rest =>
      have other : word ∉ ["namespace", "section", "end", "end,"] := by
        simp only [List.mem_cons, List.not_mem_nil, or_false, not_or]
        refine ⟨?_,?_,?_,?_⟩ <;> rintro rfl
        · exact noNamespace rest same
        · exact noSection rest same
        · exact noEnd rest same
        · exact noComma rest same
      simpa using fun _ => other
  all_goals
    rename_i words
    simp [words]

theorem notBegins {cs : List Char} {d : Char} (plain : Text.isBlank d = false) (other : d ≠ 'n')
    (ended : line.toList = cs ++ [d]) : ¬Course.Begins line := by
  have last : (Text.trim line).toList.getLast? = some d := by
    rw [Text.trim, ended, String.toList_ofList, Text.stripLast plain]
  rintro (same | ⟨front, same⟩)
  · rw [same] at last
    exact other (Option.some.inj last).symm
  · rw [← same, List.getLast?_append] at last
    exact other (Option.some.inj last).symm

theorem blockWordComma {cs : List Char} (mark : String.ofList (cs ++ [',']) ∈ blockWords) :
    String.ofList cs = "end" := by
  have cut : ∀ word ∈ blockWords,
      word.toList.getLast? = some ',' → word.toList.dropLast = "end".toList := by decide +kernel
  have same := cut _ mark (by simp)
  rw [String.toList_ofList, List.dropLast_concat] at same
  rw [same, String.ofList_toList]

theorem neutralComma (neutral : lineMark commaNames line = .neutral) :
    lineMark commaNames (line ++ ",") = .neutral := by
  obtain ⟨noMark, -⟩ := neutralIff.mp neutral
  have content : (line ++ ",").toList = line.toList ++ [','] := String.toList_append
  refine neutralIff.mpr ⟨fun word first mark => ?_,notBegins (by decide) (by decide) content⟩
  obtain ⟨front, last, before, after⟩ :=
    Text.wordsEnded Text.isBlank (d := ',') (by decide) line.toList
  rw [Course.wordsOf, content, after] at first
  rw [Course.wordsOf, before] at noMark
  cases front with
  | nil =>
    cases first
    have same := blockWordComma mark
    have nonempty : last ≠ [] := by
      rintro rfl
      contradiction
    exact noMark "end" (by simp [nonempty, same]) (by decide)
  | cons word front =>
    cases first
    exact noMark _ rfl mark

namespace Block
variable {blocks blocks' : List Block} {lines : List String}

/-! ### The reader and the stack -/

theorem closesTail {name? : Option String} (accepted : marked? blocks (.closes name?) = some blocks') :
    blocks.tail = blocks' := by
  cases blocks with
  | nil => contradiction
  | cons block outer =>
    rw [marked?] at accepted
    split at accepted
    · exact Option.some.inj accepted
    · contradiction

theorem afterMarked (accepted : marked? blocks (lineMark commaNames line) = some blocks') :
    after blocks line = blocks' := by
  rw [lineMark] at accepted
  split at accepted
  case h_1 rest words => simpa [after, words, marked?] using accepted
  case h_2 rest words => simpa [after, words, marked?] using accepted
  case h_3 rest words => simpa [after, words] using closesTail accepted
  case h_4 rest words => simpa [after, words] using closesTail accepted
  case h_5 noNamespace noSection noEnd noComma =>
    have plain : after blocks line = if Course.Begins line then .proofBlock :: blocks else blocks := by
      simp only [after, Course.opensBegins]
    rw [plain]
    split at accepted
    · rw [if_pos ‹_›]
      exact Option.some.inj accepted
    · rw [if_neg ‹_›]
      exact Option.some.inj accepted

theorem afterNested (accepted : nest? commaNames blocks lines = some blocks') :
    lines.foldl after blocks = blocks' := by
  induction lines generalizing blocks with
  | nil => exact Option.some.inj accepted
  | cons line lines ih =>
    obtain ⟨next, first, rest⟩ := Option.bind_eq_some_iff.mp accepted
    rw [List.foldl_cons, afterMarked first]
    exact ih rest

theorem nestAppend (blocks : List Block) (first second : List String) :
    nest? commaNames blocks (first ++ second) =
      (nest? commaNames blocks first).bind (nest? commaNames · second) :=
  List.foldlM_append

theorem nestNeutral (neutral : ∀ line ∈ lines, lineMark commaNames line = .neutral)
    (blocks : List Block) : nest? commaNames blocks lines = some blocks := by
  induction lines with
  | nil => rfl
  | cons line lines ih =>
    obtain ⟨here, later⟩ := List.forall_mem_cons.mp neutral
    rw [nest?, List.foldlM_cons, here]
    exact ih later

/-! ### Names and closing lines -/

def Named (block : Block) : Prop :=
  ∀ name, block.name? = some name → name.toList ≠ [] ∧ ∀ c ∈ name.toList, Text.isBlank c = false

theorem opensNamed {block : Block} (opens : lineMark commaNames line = .opens block) :
    block.Named := by
  have word {name : String} (among : name ∈ Course.wordsOf line) :
      name.toList ≠ [] ∧ ∀ c ∈ name.toList, Text.isBlank c = false := by
    obtain ⟨cs, inside, rfl⟩ := List.mem_map.mp among
    rw [String.toList_ofList]
    exact Text.wordsPlain inside
  intro name named
  rw [lineMark] at opens
  split at opens
  case h_1 rest words =>
    cases opens
    cases rest with
    | nil => contradiction
    | cons first rest =>
      have same := (Option.ite_none_left_eq_some.mp named).2
      cases same
      exact word (by simp [words])
  case h_2 rest words =>
    cases opens
    exact word (by simp [words, List.mem_of_mem_head? named])
  case h_3 | h_4 => contradiction
  case h_5 =>
    split at opens
    · cases opens
      contradiction
    · contradiction

theorem namedMarked (named : ∀ block ∈ blocks, block.Named)
    (accepted : marked? blocks (lineMark commaNames line) = some blocks') :
    ∀ block ∈ blocks', block.Named := by
  cases mark : lineMark commaNames line with
  | opens block =>
    rw [mark] at accepted
    cases accepted
    exact List.forall_mem_cons.mpr ⟨opensNamed mark,named⟩
  | closes name? =>
    rw [mark] at accepted
    rw [← closesTail accepted]
    exact fun block among => named block (List.mem_of_mem_tail among)
  | neutral =>
    rw [mark] at accepted
    cases accepted
    exact named

theorem namedNested (named : ∀ block ∈ blocks, block.Named)
    (accepted : nest? commaNames blocks lines = some blocks') : ∀ block ∈ blocks', block.Named := by
  induction lines generalizing blocks with
  | nil =>
    cases accepted
    exact named
  | cons line lines ih =>
    obtain ⟨next, first, rest⟩ := Option.bind_eq_some_iff.mp accepted
    exact ih (namedMarked named first) rest

theorem endWords {name : String} (nonempty : name.toList ≠ [])
    (plain : ∀ c ∈ name.toList, Text.isBlank c = false) :
    Course.wordsOf ("end " ++ name) = ["end", name] := by
  have content : ("end " ++ name).toList = "end".toList ++ ' ' :: name.toList := by simp
  have first : Text.words Text.isBlank "end".toList = ["end".toList] := by decide +kernel
  rw [Course.wordsOf, content, Text.wordsParted (by decide), first, Text.wordsWhole nonempty plain]
  simp

def Closes (commaNames : Bool) (block : Block) (line : String) : Prop :=
  lineMark commaNames line = .closes block.name?

instance (block : Block) (line : String) : Decidable (Closes commaNames block line) :=
  inferInstanceAs (Decidable (_ = _))

theorem closesUnderName {block : Block} {name : String} (named : block.Named)
    (own : block.name? = some name) (commaNames : Bool) :
    '\n' ∉ ("end " ++ name).toList ∧ Closes commaNames block ("end " ++ name) := by
  obtain ⟨nonempty, plain⟩ := named name own
  constructor
  · have whole : '\n' ∉ name.toList := fun feed => absurd (plain _ feed) (by decide)
    simpa using whole
  · rw [Closes, own, lineMark, endWords nonempty plain]
    rfl

theorem closingMark {block : Block} (named : block.Named) (other : block ≠ .proofBlock)
    (commaNames : Bool) :
    ∃ line, block.closing? = some line ∧ '\n' ∉ line.toList ∧ Closes commaNames block line := by
  cases block with
  | namespaceBlock name =>
    refine ⟨_,rfl,?_⟩
    rcases eq_or_ne name "" with rfl | nonempty
    · exact ⟨by decide +kernel,by cases commaNames <;> decide +kernel⟩
    · exact closesUnderName named (if_neg nonempty) commaNames
  | sectionBlock name? =>
    cases name? with
    | none => exact ⟨"end",rfl,by decide +kernel,by cases commaNames <;> decide +kernel⟩
    | some name => exact ⟨_,rfl,closesUnderName named rfl commaNames⟩
  | proofBlock => exact absurd rfl other

theorem closingsMarked (named : ∀ block ∈ blocks, block.Named) (noProof : .proofBlock ∉ blocks)
    (commaNames : Bool) :
    Feedless (blocks.filterMap closing?) ∧
      List.Forall₂ (Closes commaNames) blocks (blocks.filterMap closing?) := by
  induction blocks with
  | nil => exact ⟨List.forall_mem_nil _,.nil⟩
  | cons block blocks ih =>
    obtain ⟨here, later⟩ := List.forall_mem_cons.mp named
    rw [List.mem_cons, not_or] at noProof
    obtain ⟨line, shown, whole, mark⟩ := closingMark here (Ne.symm noProof.1) commaNames
    obtain ⟨rest, marks⟩ := ih later noProof.2
    rw [List.filterMap_cons_some shown]
    exact ⟨List.forall_mem_cons.mpr ⟨whole,rest⟩,.cons mark marks⟩

theorem nestClosings (marks : List.Forall₂ (Closes commaNames) blocks lines) :
    nest? commaNames blocks lines = some [] := by
  induction marks with
  | nil => rfl
  | cons mark _ ih =>
    rw [nest?, List.foldlM_cons, mark, marked?, if_pos (.inr rfl)]
    exact ih

theorem nestUnreturned (blocks : List Block) (lines : List String) :
    nest? commaNames blocks (lines.map Text.unreturned) = nest? commaNames blocks lines := by
  simp only [nest?, List.foldlM_map, lineMarkUnreturned]

end Block

/-! ### Code in a file -/

def NeutralLines (commaNames : Bool) (lines : List String) : Prop :=
  ∀ line ∈ lines, lineMark commaNames line = .neutral

instance (lines : List String) : Decidable (NeutralLines commaNames lines) :=
  inferInstanceAs (Decidable (∀ line ∈ lines, _))

def NeutralRows (commaNames : Bool) (cs : List Char) : Prop :=
  ∀ row ∈ Text.splitAt (· = '\n') cs, lineMark commaNames (.ofList row) = .neutral

theorem neutralRows {code : String} (neutral : NeutralLines commaNames (Text.lines code)) :
    NeutralRows commaNames code.toList := by
  intro row among
  have inside : String.ofList row ∈ Text.rowsOf code := by
    rw [Text.rowsOfSplit]
    exact List.mem_map_of_mem among
  rcases Text.rowsOfLines inside with empty | whole | cut
  · rw [empty]
    cases commaNames <;> decide +kernel
  · exact neutral _ whole
  · exact (lineMarkUnreturned _).symm.trans (neutral _ cut)

theorem neutralRowsIndented {cs : List Char} (neutral : NeutralRows commaNames cs) :
    NeutralRows commaNames (' ' :: cs) := by
  obtain ⟨first, rows, before, after⟩ :=
    Text.splitAtBegun (· = '\n') (d := ' ') (by decide) cs
  rw [NeutralRows, before, List.forall_mem_cons] at neutral
  rw [NeutralRows, after, List.forall_mem_cons, lineMarkBlankStart (by decide)]
  exact neutral

theorem neutralRowsComma {cs : List Char} (neutral : NeutralRows commaNames cs) :
    NeutralRows commaNames (cs ++ [',']) := by
  obtain ⟨rows, last, before, after⟩ :=
    Text.splitAtEnded (· = '\n') (d := ',') (by decide) cs
  rw [NeutralRows, before, List.forall_mem_append, List.forall_mem_singleton] at neutral
  rw [NeutralRows, after, List.forall_mem_append, List.forall_mem_singleton]
  refine ⟨neutral.1,?_⟩
  rw [String.ofList_append]
  exact neutralComma neutral.2

namespace Assembler
variable {accepted : List String} {code? : Option String}

theorem acceptedNeutral (neutral : ∀ code ∈ accepted, NeutralLines commaNames (Text.lines code)) :
    NeutralLines commaNames (acceptedRows accepted) := by
  intro row among
  obtain ⟨pushed, inside, row'⟩ := List.mem_flatMap.mp among
  obtain ⟨code, kept, rfl⟩ := List.mem_map.mp inside
  have content : (indented code ++ ",").toList = ' ' :: ' ' :: (code.toList ++ [',']) := by
    simp [indented]
  rw [Text.rowsOfSplit, content] at row'
  obtain ⟨cs, piece, rfl⟩ := List.mem_map.mp row'
  have plain := neutralRows (neutral code (List.mem_of_mem_filter kept))
  exact neutralRowsIndented (neutralRowsIndented (neutralRowsComma plain)) cs piece

theorem newCodeNeutral (neutral : ∀ code ∈ code?, NeutralLines commaNames (Text.lines code)) :
    NeutralLines commaNames (newCodeLines code?) := by
  by_cases given : Given code?
  · obtain ⟨code, rfl, written⟩ := given
    obtain ⟨lines, line, ended, pushed⟩ := givenLines written
    have plain := neutral code rfl
    rw [ended, NeutralLines, List.forall_mem_append, List.forall_mem_singleton] at plain
    rw [pushed, NeutralLines, List.forall_mem_append, List.forall_mem_singleton, List.forall_mem_map]
    refine ⟨fun line among => ?_,neutralComma ?_⟩
    · rw [lineMarkIndented]
      exact plain.1 line among
    · rw [lineMarkIndented]
      exact plain.2
  · rw [blankLines given]
    exact List.forall_mem_nil _

theorem noteNeutral {note : List String} (shown : Note note) : NeutralLines commaNames note := by
  rcases shown with rfl | ⟨n, rfl⟩
  · exact List.forall_mem_nil _
  · have content : ("-- #" ++ toString n).toList =
        "--".toList ++ ' ' :: ('#' :: (toString n).toList) := by simp
    have first : Text.words Text.isBlank "--".toList = ["--".toList] := by decide +kernel
    obtain ⟨front, d, last, digit⟩ := Text.numeralLast n
    refine List.forall_mem_singleton.mpr (neutralIff.mpr ⟨?_,?_⟩)
    · rw [Course.wordsOf, content, Text.wordsParted (by decide), first]
      rintro _ ⟨⟩
      decide +kernel
    · have ended : ("-- #" ++ toString n).toList = "--".toList ++ ' ' :: '#' :: front ++ [d] := by
        rw [content, last]
        simp
      have other : d ≠ 'n' := by
        rintro rfl
        cases digit
      exact notBegins (Text.digitPlain digit) other ended

end Assembler

/-! ### The file -/

structure ClosesAll (commaNames : Bool) (blocks : List Block) (lines : List String) : Prop where
  nested : Block.nest? commaNames [] lines = some []
  ending : ∃ before closings after,
    lines = before ++ "  targets_analysis" :: "end" :: (closings ++ after) ∧
      Block.nest? commaNames [] before = some (.proofBlock :: blocks) ∧
      List.Forall₂ (Block.Closes commaNames) blocks closings ∧ NeutralLines commaNames after

theorem closesAllOf {blocks : List Block} {before closings after : List String}
    (opened : Block.nest? commaNames [] before = some (.proofBlock :: blocks))
    (marks : List.Forall₂ (Block.Closes commaNames) blocks closings)
    (rest : NeutralLines commaNames after) :
    ClosesAll commaNames blocks (before ++ "  targets_analysis" :: "end" :: (closings ++ after)) := by
  refine ⟨?_,before,closings,after,rfl,opened,marks,rest⟩
  have targets : lineMark commaNames "  targets_analysis" = .neutral := by
    cases commaNames <;> decide +kernel
  have proof : lineMark commaNames "end" = .closes none := by cases commaNames <;> decide +kernel
  have last : Block.nest? commaNames blocks (closings ++ after) = some [] := by
    rw [Block.nestAppend, Block.nestClosings marks, Option.bind_some, Block.nestNeutral rest]
  rw [Block.nestAppend, opened, Option.bind_some, Block.nest?, List.foldlM_cons, targets]
  rw [Block.marked?, Option.bind_eq_bind, Option.bind_some, List.foldlM_cons, proof]
  exact last

namespace Assembler
variable {c : Course} {e : Exercise} {blocks : List Block}

theorem liveStepLines (a : Assembler) (accepted : List String) (code? : Option String) :
    Text.lines (a.liveStep accepted code?).1.content =
      (Text.rows (a.liveStep accepted code?).1.content).map Text.unreturned := by
  obtain ⟨note, -, content⟩ := liveStepContent a accepted code?
  rw [content]
  exact Text.linesEnded _

theorem liveStepCloses {a : Assembler} (started : start c e = .ok a)
    (opened : Block.nest? commaNames [] a.preamble = some (.proofBlock :: blocks))
    (whole : Feedless a.closings) (marks : List.Forall₂ (Block.Closes commaNames) blocks a.closings)
    (files : List (List String × Option String)) {accepted : List String} {code? : Option String}
    (earlier : ∀ code ∈ accepted, NeutralLines commaNames (Text.lines code))
    (new : ∀ code ∈ code?, NeutralLines commaNames (Text.lines code)) :
    ClosesAll commaNames blocks (Text.lines ((a.after files).liveStep accepted code?).1.content) := by
  obtain ⟨note, shown, rows⟩ := liveStepRows started files accepted code?
  have analysis : analysisLines = ["  hypo_analysis,", "  targets_analysis"] := by decide +kernel
  have context : NeutralLines commaNames ["  hypo_analysis,"] := by cases commaNames <;> decide +kernel
  have same : Text.unreturned "  targets_analysis" = "  targets_analysis" ∧
      Text.unreturned "end" = "end" := by decide +kernel
  rw [analysis, Text.flatMapFeedless whole] at rows
  have before : Block.nest? commaNames []
      (a.preamble ++ acceptedRows accepted ++ newCodeLines code? ++ ["  hypo_analysis,"]) =
        some (.proofBlock :: blocks) := by
    simp only [Block.nestAppend, opened, Option.bind_some, Block.nestNeutral (acceptedNeutral earlier),
      Block.nestNeutral (newCodeNeutral new), Block.nestNeutral context]
  have unreturned : List.Forall₂ (Block.Closes commaNames) blocks (a.closings.map Text.unreturned) := by
    rw [List.forall₂_map_right_iff]
    exact marks.imp fun block line mark => (lineMarkUnreturned line).trans mark
  have rest : NeutralLines commaNames (note.map Text.unreturned) :=
    List.forall_mem_map.mpr fun line among =>
      (lineMarkUnreturned line).trans (noteNeutral shown line among)
  have file := closesAllOf ((Block.nestUnreturned [] _).trans before) unreturned rest
  rw [liveStepLines, rows]
  simpa [same] using file

theorem preambleNested (fits : e.FitsIn c.lines.length) (plain : e.negate = false)
    (before : Block.nest? commaNames [] (c.lines.take (e.beginLine - 1)) = some blocks)
    (begins : ∃ line, c.lines[e.beginLine - 1]? = some line ∧
      lineMark commaNames line = .opens .proofBlock) :
    Block.nest? commaNames [] ((e.negated c.lines).take e.beginLine) =
      some (.proofBlock :: blocks) := by
  obtain ⟨line, here, opens⟩ := begins
  have same : e.negated c.lines = c.lines := by rw [Exercise.negated, plain]
  have last : c.lines.take e.beginLine = c.lines.take (e.beginLine - 1) ++ [line] := by
    have split := List.take_add_one (l := c.lines) (i := e.beginLine - 1)
    rw [here, Nat.sub_add_cancel fits.1] at split
    exact split
  rw [same, last, Block.nestAppend, before, Option.bind_some, Block.nest?, List.foldlM_cons, opens]
  rfl

/-- A step's file is well nested to its end if the source before the exercise is. The line behind the
targets closes the proof and the last lines close each block around it under its own name. -/
theorem liveFilesClosed (commaNames : Bool) (fits : e.FitsIn c.lines.length) (plain : e.negate = false)
    (before : Block.nest? commaNames [] (c.lines.take (e.beginLine - 1)) = some blocks)
    (noProof : .proofBlock ∉ blocks)
    (begins : ∃ line, c.lines[e.beginLine - 1]? = some line ∧
      lineMark commaNames line = .opens .proofBlock) :
    ∃ a, start c e = .ok a ∧ ∀ files accepted code?,
      (∀ code ∈ accepted, NeutralLines commaNames (Text.lines code)) →
      (∀ code ∈ code?, NeutralLines commaNames (Text.lines code)) →
      ClosesAll commaNames blocks (Text.lines ((a.after files).liveStep accepted code?).1.content) := by
  have opened := preambleNested fits plain before begins
  have named : ∀ block ∈ blocks, block.Named := Block.namedNested (List.forall_mem_nil _) before
  obtain ⟨whole, marks⟩ := Block.closingsMarked named noProof commaNames
  have closings : Block.closings ((e.negated c.lines).take e.beginLine) =
      blocks.filterMap Block.closing? := by
    rw [Block.closings, Block.afterNested opened]
    rfl
  have started := startFits fits
  rw [closings] at started
  exact ⟨_,started,fun files accepted code? => liveStepCloses started opened whole marks files⟩

def nestedCourse : Course where
  source :=
    "namespace logic\nsection\nlemma a : p :=\nbegin\n  have h : q, begin\n    x,\n  end,\nend\n" ++
      "section sets\nlemma b : q :=\nbegin\n  y\nend\nend sets\nend\nend logic\n"

theorem liveFilesClosedOfSections :
    ∃ a, start nestedCourse { name := "b", beginLine := 11, endLine := 13 } = .ok a ∧
      ClosesAll true [.sectionBlock (some "sets"), .sectionBlock none, .namespaceBlock "logic"]
        (Text.lines ((a.after [([], none)]).liveStep ["intro h"] (some "split,\nsimp")).1.content) := by
  have before : Block.nest? true [] (nestedCourse.lines.take 10) =
      some [.sectionBlock (some "sets"), .sectionBlock none, .namespaceBlock "logic"] := by
    decide +kernel
  obtain ⟨a, started, closed⟩ := liveFilesClosed (c := nestedCourse)
    (e := { name := "b", beginLine := 11, endLine := 13 }) true (by decide +kernel) rfl before
    (by decide) ⟨"begin",by decide +kernel,by decide +kernel⟩
  exact ⟨a,started,closed _ _ _ (by decide +kernel) (by decide +kernel)⟩

end Assembler

end ProofTutor
