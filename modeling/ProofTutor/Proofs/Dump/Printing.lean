import ProofTutor.Dump.Goals
import ProofTutor.Proofs.Dump.Reading
import ProofTutor.Proofs.Dump.Splitting
import ProofTutor.Proofs.Term.Written
import ProofTutor.Proofs.Text.Rows
import ProofTutor.Proofs.Text.Basic

/-!
Printed records and dumps. A record is read as it was printed, and a text of records with separators
between them comes apart into these records when nothing printed has a mark of its own.
-/
namespace ProofTutor

namespace Record

/-! ### Balanced texts -/

structure Balanced (cs : List Char) : Prop where
  marked : Marked cs
  level : ∀ depth, depthThrough depth cs = depth

theorem Balanced.part {cs : List Char} (balanced : Balanced cs) : Part cs :=
  ⟨balanced.marked,balanced.level 0⟩

theorem Balanced.append {first second : List Char} (one : Balanced first) (two : Balanced second) :
    Balanced (first ++ second) where
  marked := one.marked.append two.marked
  level := by
    intro depth
    rw [depthThroughAppend one.marked, one.level, two.level]

theorem balancedFree {cs : List Char} (free : '¿' ∉ cs) : Balanced cs where
  marked := (unmarked free 0).1
  level depth := (unmarked free depth).2

theorem balancedNil : Balanced [] := balancedFree List.not_mem_nil

theorem balancedChildren {inside : List Char} (balanced : Balanced inside) :
    Balanced (Tree.childrenOpen ++ inside ++ Tree.childrenClose) := by
  have opened : Marked Tree.childrenOpen := by simp [Marked, Tree.childrenOpen]
  have closed : Marked Tree.childrenClose := by simp [Marked, Tree.childrenClose]
  refine ⟨(opened.append balanced.marked).append closed,?_⟩
  intro depth
  rw [depthThroughAppend (opened.append balanced.marked), depthThroughAppend opened,
    balanced.level]
  rfl

end Record

namespace Tree

inductive Unmarked : Tree → Prop where
  | node {tag : String} {info : List (String × String)} {children : List Tree}
      (values : ∀ pair ∈ info, '¿' ∉ pair.2.toList) (below : ∀ t ∈ children, Unmarked t) :
      Unmarked ⟨tag,info,children⟩

theorem tagFree {tag : String} (lexical : LexicalTag tag) : '¿' ∉ tag.toList := by
  intro mem
  cases lexical.2 '¿' mem

theorem keysFree {info : List (String × String)} (lexical : LexicalPairs info) :
    ∀ pair ∈ info, '¿' ∉ pair.1.toList := by
  induction info with
  | nil => simp
  | cons pair info ih =>
    obtain ⟨key, _, others⟩ := lexical
    refine List.forall_mem_cons.mpr ⟨?_,ih others⟩
    intro mem
    cases key.2 '¿' mem

theorem pairsBalanced {info : List (String × String)} (lexical : LexicalPairs info)
    (values : ∀ pair ∈ info, '¿' ∉ pair.2.toList) : Record.Balanced (printInfo info) := by
  have each : ∀ pair ∈ info, '¿' ∉ printPair pair := by
    intro pair mem
    simp [printPair, keysFree lexical pair mem, values pair mem]
  have joined : '¿' ∉ Text.joinWith ['/'] (info.map printPair) := by
    cases info with
    | nil => simp [Text.joinWith]
    | cons pair info =>
      rw [joinSlashed, List.mem_append, slashed, List.mem_flatMap]
      rintro (first | ⟨other, mem, inside⟩)
      · exact each pair List.mem_cons_self first
      · exact each other (List.mem_cons_of_mem pair mem) (by simpa using inside)
  rw [printInfo]
  split
  · exact Record.balancedNil
  · have opened : Record.Balanced infoOpen :=
      ⟨by simp [Record.Marked, infoOpen],fun depth => rfl⟩
    have closed : Record.Balanced infoClose :=
      ⟨by simp [Record.Marked, infoClose],fun depth => rfl⟩
    exact (opened.append (Record.balancedFree joined)).append closed

theorem moreBalanced {ts : List Tree} (each : ∀ t ∈ ts, Record.Balanced t.print) :
    Record.Balanced (printMore ts) := by
  induction ts with
  | nil => exact Record.balancedNil
  | cons t ts ih =>
    obtain ⟨first, others⟩ := List.forall_mem_cons.mp each
    have next : Record.Balanced (childMark ++ [' ']) :=
      ⟨by simp [Record.Marked, childMark],fun depth => rfl⟩
    have spaced : printMore (t :: ts) = childMark ++ [' '] ++ t.print ++ printMore ts := by
      simp [printMore]
    rw [spaced]
    exact (next.append first).append (ih others)

theorem printBalanced {t : Tree} (lexical : Lexical t) (unmarked : Unmarked t) :
    Record.Balanced t.print := by
  induction lexical with
  | @node tag info children tagged pairs below ih =>
    cases unmarked with
    | node values free =>
      have each : ∀ t ∈ children, Record.Balanced t.print := fun t mem => ih t mem (free t mem)
      have inner : Record.Balanced (printChildren children) := by
        cases children with
        | nil => exact Record.balancedNil
        | cons t ts =>
          obtain ⟨first, others⟩ := List.forall_mem_cons.mp each
          rw [printChildren, List.append_assoc childrenOpen]
          exact Record.balancedChildren (first.append (moreBalanced others))
      rw [print]
      exact ((Record.balancedFree (tagFree tagged)).append (pairsBalanced pairs values)).append inner

end Tree

namespace Term

inductive Unmarked : Term → Prop where
  | node {kind : Kind} {info : Info} {children : List Term} {type? : Option Term}
      (typeText : ∀ text ∈ info.typeText, '¿' ∉ text.toList) (below : ∀ t ∈ children, Unmarked t)
      (typed : kind = .localConstant → ∀ type ∈ type?, Unmarked type) :
      Unmarked ⟨kind,info,children,type?⟩

theorem pairsUnmarked {info : Info} (plain : info.Plain)
    (typeText : ∀ text ∈ info.typeText, '¿' ∉ text.toList) :
    ∀ pair ∈ info.pairs, '¿' ∉ pair.2.toList := by
  have each : ∀ pair ∈ (Tree.fields info ++ [("pp_type",info.typeText)]).filterMap
      fun field => field.2.map (field.1,·), '¿' ∉ pair.2.toList := by
    intro pair mem
    obtain ⟨field, inside, same⟩ := List.mem_filterMap.mp mem
    obtain ⟨value, valued, rfl⟩ := Option.map_eq_some_iff.mp same
    rcases List.mem_append.mp inside with field | last
    · intro mark
      exact (Tree.fieldFree plain field value valued _ mark).2 rfl
    · rw [List.mem_singleton.mp last] at valued
      exact typeText value valued
  exact each

theorem headUnmarked {kind : Kind} {info : Info}
    (typeText : ∀ text ∈ info.typeText, '¿' ∉ text.toList) :
    ∀ text ∈ (writtenHead kind info).2.typeText, '¿' ∉ text.toList := by
  unfold writtenHead
  split
  · simp
  · simp
  · exact typeText

theorem treeUnmarked {t : Term} (clean : Clean t) (unmarked : Unmarked t) (declared : Bool) :
    (t.tree declared).Unmarked := by
  induction clean generalizing declared with
  | @node kind info children type? code plain below typed ih ihType =>
    cases unmarked with
    | node typeText free freeType =>
      rw [treeNode]
      refine .node (pairsUnmarked (headWritten code plain).2 (headUnmarked typeText)) ?_
      split
      · rename_i type inside
        have isLocal : kind = .localConstant := eq_of_beq (Bool.and_eq_true_iff.mp inside).1
        simpa using ihType isLocal type rfl (freeType isLocal type rfl) false
      · intro tree mem
        obtain ⟨t, inside, declared, rfl⟩ := treesMem mem
        exact ih t inside (free t inside) declared

end Term

/-! ### Records -/

def RecordKind.tag : RecordKind → String
  | .object => "OBJECT"
  | .property => "PROPERTY"

namespace Record

def print (r : Record) : List Char :=
  r.kind.tag.toList ++ '[' :: r.head.print ++ "] ¿= ".toList ++ r.tail.print

structure Printable (r : Record) : Prop where
  head : r.head.Lexical
  tail : r.tail.Lexical
  freeHead : r.head.Unmarked
  freeTail : r.tail.Unmarked

theorem readKindTag (kind : RecordKind) (rest : List Char) :
    readKind? (Tree.dropSpaces (kind.tag.toList ++ '[' :: rest)) = some (kind,'[' :: rest) := by
  cases kind <;> rfl

theorem readPrinted {r : Record} (printable : r.Printable) : read? r.print = some r := by
  have head := Tree.readApart (Tree.printSpelling printable.head)
    (Tree.apartBracket (" ¿= ".toList ++ r.tail.print))
  have blank : Tree.Spaces [' '] := by simp [Tree.Spaces, Tree.isSpace]
  have tail := Tree.readApart (Tree.spacedSpelling (Tree.printSpelling printable.tail) blank)
    Tree.apartNil
  rw [List.append_nil] at tail
  have text : r.print =
      r.kind.tag.toList ++ '[' :: (r.head.print ++ ']' :: (" ¿= ".toList ++ r.tail.print)) := by
    simp [print]
  have equation : Tree.dropSpaces (" ¿= ".toList ++ r.tail.print) =
      ['¿','='] ++ ([' '] ++ r.tail.print) := rfl
  rw [read?, text, readKindTag]
  simp only [Option.bind_eq_bind, Option.bind_some, Text.stripHead?, if_true, head, equation,
    Tree.stripOwn, tail]
  rfl

theorem printBalanced {r : Record} (printable : r.Printable) : Balanced r.print := by
  have named : '¿' ∉ r.kind.tag.toList ++ ['['] := by cases r.kind <;> decide
  have equation : Balanced "] ¿= ".toList :=
    ⟨by simp [Marked],fun depth => rfl⟩
  have text : r.print = r.kind.tag.toList ++ ['['] ++ r.head.print ++ "] ¿= ".toList ++
      r.tail.print := by
    simp [print]
  rw [text]
  have head := Tree.printBalanced printable.head printable.freeHead
  have tail := Tree.printBalanced printable.tail printable.freeTail
  exact (((balancedFree named).append head).append equation).append tail

/-! ### Parts on lines of their own -/

structure Whole (text : List Char) : Prop where
  balanced : Balanced text
  first : ∀ c ∈ text.head?, Text.isBlank c = false
  last : ∀ c ∈ text.getLast?, Text.isBlank c = false
  nonempty : text ≠ []

theorem Whole.trimmed {text : List Char} (whole : Whole text) : Text.strip text = text :=
  Tree.stripSelf whole.first whole.last

theorem printWhole {r : Record} (printable : r.Printable) : Whole r.print where
  balanced := printBalanced printable
  first := by
    intro c mem
    rw [print] at mem
    cases kind : r.kind with
    | object =>
      obtain rfl : 'O' = c := by simpa [kind, RecordKind.tag] using mem
      decide
    | property =>
      obtain rfl : 'P' = c := by simpa [kind, RecordKind.tag] using mem
      decide
  last := by
    intro c mem
    refine Tree.printLast printable.tail c ?_
    rw [print, List.getLast?_append_of_ne_nil _ (Tree.printSome printable.tail)] at mem
    exact mem
  nonempty := by simp [print]

def lineMark : List Char := ['\n'] ++ separator ++ ['\n']

def padded (start : List Char) : List (List Char) → List (List Char)
  | [] => []
  | [text] => [start ++ text]
  | text :: texts => (start ++ text ++ ['\n']) :: padded ['\n'] texts

theorem paddedSome (start : List Char) {texts : List (List Char)} (nonempty : texts ≠ []) :
    padded start texts ≠ [] := by
  cases texts with
  | nil => exact absurd rfl nonempty
  | cons text texts => cases texts <;> simp [padded]

theorem joinCons (mark item : List Char) {items : List (List Char)} (nonempty : items ≠ []) :
    Text.joinWith mark (item :: items) = item ++ mark ++ Text.joinWith mark items := by
  cases items with
  | nil => exact absurd rfl nonempty
  | cons next items => rfl

theorem paddedJoin (start : List Char) {texts : List (List Char)} (nonempty : texts ≠ []) :
    Text.joinWith separator (padded start texts) = start ++ Text.joinWith lineMark texts := by
  induction texts generalizing start with
  | nil => exact absurd rfl nonempty
  | cons text texts ih =>
    cases texts with
    | nil => rfl
    | cons next texts =>
      have more : next :: texts ≠ [] := by simp
      rw [padded, joinCons _ _ (paddedSome _ more), ih ['\n'] more, joinCons _ _ more, lineMark]
      · simp
      · simp

theorem paddedMap {β : Type} {f g : List Char → β} {texts : List (List Char)} {start : List Char}
    (same : ∀ before ∈ [start,['\n']], ∀ text ∈ texts,
      f (before ++ text) = g text ∧ f (before ++ text ++ ['\n']) = g text) :
    (padded start texts).map f = texts.map g := by
  induction texts generalizing start with
  | nil => rfl
  | cons text texts ih =>
    obtain ⟨here, fed⟩ := same start List.mem_cons_self text List.mem_cons_self
    have others : (padded ['\n'] texts).map f = texts.map g := by
      refine ih fun before mem other inside => same before ?_ other (List.mem_cons_of_mem text inside)
      rcases List.mem_pair.mp mem with rfl | rfl <;> simp
    cases texts with
    | nil => simpa [padded] using here
    | cons next texts =>
      rw [padded, List.map_cons, List.map_cons, others, fed]
      simp

theorem paddedPart {texts : List (List Char)} (each : ∀ text ∈ texts, Balanced text)
    {start : List Char} (free : '¿' ∉ start) : ∀ part ∈ padded start texts, Part part := by
  have feed : Balanced ['\n'] := balancedFree (by decide)
  induction texts generalizing start with
  | nil => simp [padded]
  | cons text texts ih =>
    obtain ⟨first, others⟩ := List.forall_mem_cons.mp each
    have whole := (balancedFree free).append first
    cases texts with
    | nil => simpa [padded] using whole.part
    | cons next texts =>
      rw [padded]
      · exact List.forall_mem_cons.mpr ⟨(whole.append feed).part,ih others (by decide)⟩
      · simp

theorem splitLines {texts : List (List Char)} (nonempty : texts ≠ [])
    (each : ∀ text ∈ texts, Balanced text) {start : List Char} (free : '¿' ∉ start) :
    split (start ++ Text.joinWith lineMark texts) = padded start texts := by
  rw [← paddedJoin start nonempty, joinSplit (paddedSome start nonempty) (paddedPart each free)]

end Record

namespace Dump

/-! ### Lines -/

def keptLines (cs : List Char) : List (List Char) :=
  ((Text.linesOf cs).map Text.strip).filter (· ≠ [])

theorem stripReturn (cs : List Char) : Text.strip (Text.dropReturn cs) = Text.strip cs := by
  rcases Text.dropReturnCases cs with same | ended
  · rw [← same]
  · conv_rhs => rw [ended]
    rw [Text.stripBlankEnd (by decide)]

theorem keptPieces (cs : List Char) :
    keptLines cs = ((Text.feedLines (cs ++ ['\n'])).1.map Text.strip).filter (· ≠ []) := by
  have dropped (lines : List (List Char)) :
      (lines.map Text.dropReturn).map Text.strip = lines.map Text.strip := by
    rw [List.map_map]
    exact List.map_congr_left fun line _ => stripReturn line
  rw [keptLines, Text.linesOf, Text.feedLinesEnded]
  split
  · rename_i lines same
    rw [same, dropped]
    simp [Text.strip, Text.dropBlanks, Text.dropEndBlanks]
  · rename_i lines rest unended same
    rw [same, List.map_append, List.map_append, dropped]

theorem keptAppend (xs ys : List Char) :
    keptLines (xs ++ '\n' :: ys) = keptLines xs ++ keptLines ys := by
  rw [keptPieces, keptPieces, keptPieces, List.append_assoc, List.cons_append,
    Text.feedLinesAppend, List.map_append, List.filter_append]

theorem keptPadded (texts : List (List Char)) :
    (Record.padded ['\n'] texts).map keptLines = texts.map keptLines := by
  refine Record.paddedMap fun before mem text _ => ?_
  obtain rfl : before = ['\n'] := by simpa using mem
  have first := keptAppend [] text
  have last := keptAppend ('\n' :: text) []
  have empty : keptLines [] = [] := rfl
  rw [empty, List.append_nil] at last
  rw [empty, List.nil_append, List.nil_append] at first
  exact ⟨first,last.trans first⟩

theorem keptWhole {line : List Char} (whole : Record.Whole line) (single : '\n' ∉ line) :
    keptLines line = [line] := by
  rw [keptPieces, Text.feedLinesFeedless single]
  simp [whole.trimmed, whole.nonempty]

theorem keptJoined {lines : List (List Char)}
    (each : ∀ line ∈ lines, Record.Whole line ∧ '\n' ∉ line) :
    keptLines (Text.joinWith ['\n'] lines) = lines := by
  induction lines with
  | nil => rfl
  | cons line lines ih =>
    obtain ⟨⟨whole, single⟩, others⟩ := List.forall_mem_cons.mp each
    rcases eq_or_ne lines [] with rfl | nonempty
    · rw [Text.joinWith, keptWhole whole single]
    · rw [Record.joinCons _ _ nonempty, List.append_assoc, List.singleton_append, keptAppend,
        keptWhole whole single, ih others, List.singleton_append]

/-! ### Dumps -/

def blockText (lines : List (List Char)) : List Char :=
  Text.joinWith ['\n'] lines

def printBlocks (blocks : List (List (List Char))) : List Char :=
  contextHeader ++ '\n' :: Text.joinWith Record.lineMark (blocks.map blockText)

def printTargets (targets : List (List Char)) : List Char :=
  targetsHeader ++ '\n' :: Text.joinWith Record.lineMark targets

theorem dropHeaderOwn {header : List Char} (first : header.head?.any Text.isBlank = false)
    (nonempty : header ≠ []) (rest : List Char) : dropHeader header (header ++ rest) = rest := by
  have start : Text.dropBlanks (header ++ rest) = header ++ rest := by
    cases header with
    | nil => exact absurd rfl nonempty
    | cons c header =>
      have solid : Text.isBlank c = false := first
      simp [Text.dropBlanks, solid]
  rw [dropHeader, start, Tree.stripOwn]
  rfl

theorem blockBalanced {lines : List (List Char)} (each : ∀ line ∈ lines, Record.Balanced line) :
    Record.Balanced (blockText lines) := by
  induction lines with
  | nil => exact Record.balancedNil
  | cons line lines ih =>
    obtain ⟨first, others⟩ := List.forall_mem_cons.mp each
    rw [blockText]
    rcases eq_or_ne lines [] with rfl | nonempty
    · rwa [Text.joinWith]
    · have feed : Record.Balanced ['\n'] := Record.balancedFree (by decide)
      rw [Record.joinCons _ _ nonempty]
      exact (first.append feed).append (ih others)

theorem blocksPrinted {blocks : List (List (List Char))} (nonempty : blocks ≠ [])
    (each : ∀ block ∈ blocks, ∀ line ∈ block, Record.Whole line ∧ '\n' ∉ line) :
    contextBlocks (printBlocks blocks) = blocks := by
  have texts : blocks.map blockText ≠ [] := by simpa using nonempty
  have balanced : ∀ text ∈ blocks.map blockText, Record.Balanced text := by
    intro text mem
    obtain ⟨block, inside, rfl⟩ := List.mem_map.mp mem
    exact blockBalanced fun line among => (each block inside line among).1.balanced
  have kept : (blocks.map blockText).map keptLines = blocks := by
    rw [List.map_map]
    refine (List.map_congr_left fun block mem => ?_).trans (List.map_id blocks)
    exact keptJoined (each block mem)
  show (Record.split (dropHeader contextHeader (printBlocks blocks))).map keptLines = blocks
  rw [printBlocks, dropHeaderOwn (by decide) (by decide), ← List.singleton_append,
    Record.splitLines texts balanced (by decide), keptPadded, kept]

theorem joinEnds {texts : List (List Char)} (nonempty : texts ≠ [])
    (each : ∀ text ∈ texts, Record.Whole text) :
    Text.joinWith Record.lineMark texts ≠ [] ∧
      (∃ text ∈ texts, (Text.joinWith Record.lineMark texts).head? = text.head?) ∧
      ∃ text ∈ texts, (Text.joinWith Record.lineMark texts).getLast? = text.getLast? := by
  induction texts with
  | nil => exact absurd rfl nonempty
  | cons text texts ih =>
    obtain ⟨whole, others⟩ := List.forall_mem_cons.mp each
    rcases eq_or_ne texts [] with rfl | more
    · rw [Text.joinWith]
      exact ⟨whole.nonempty,⟨text,by simp⟩,⟨text,by simp⟩⟩
    · obtain ⟨rest, _, last, mem, same⟩ := ih more others
      rw [Record.joinCons _ _ more]
      refine ⟨by simp [rest],⟨text,by simp,?_⟩,⟨last,by simp [mem],?_⟩⟩
      · simp [List.head?_append, List.head?_eq_some_head whole.nonempty]
      · rw [List.getLast?_append_of_ne_nil _ rest, same]

theorem targetsPrinted {texts : List (List Char)} (each : ∀ text ∈ texts, Record.Whole text)
    (noNotice : ∀ text ∈ texts, text.head? ≠ some 'n') :
    targetTexts (printTargets texts) = texts := by
  have header : dropHeader targetsHeader (printTargets texts) =
      '\n' :: Text.joinWith Record.lineMark texts := dropHeaderOwn (by decide) (by decide) _
  have feed (cs : List Char) : Text.strip ('\n' :: cs) = Text.strip cs := rfl
  rcases eq_or_ne texts [] with rfl | nonempty
  · rfl
  · obtain ⟨filled, ⟨first, inFirst, sameFirst⟩, ⟨last, inLast, sameLast⟩⟩ := joinEnds nonempty each
    have trimmed : Text.strip (Text.joinWith Record.lineMark texts) =
        Text.joinWith Record.lineMark texts :=
      Tree.stripSelf (sameFirst ▸ (each first inFirst).first) (sameLast ▸ (each last inLast).last)
    have written : (Text.stripHead? noGoals (Text.joinWith Record.lineMark texts)).isSome = false := by
      refine Bool.eq_false_iff.mpr fun notice => noNotice first inFirst ?_
      obtain ⟨rest, same⟩ := Text.headSome.mp notice
      rw [← sameFirst, ← same]
      rfl
    have balanced : ∀ text ∈ texts, Record.Balanced text := fun text mem => (each text mem).balanced
    have parts : (Record.padded [] texts).map Text.strip = texts.map id := by
      refine Record.paddedMap fun before mem text inside => ?_
      have own := (each text inside).trimmed
      have start : Text.strip (before ++ text) = Text.strip text := by
        rcases List.mem_pair.mp mem with rfl | rfl <;> rfl
      exact ⟨start.trans own,(Text.stripBlankEnd (by decide) _).trans (start.trans own)⟩
    have kept : texts.filter (· ≠ []) = texts :=
      List.filter_eq_self.mpr fun text mem => by simpa using (each text mem).nonempty
    have split := @Record.splitLines texts nonempty balanced [] List.not_mem_nil
    rw [List.nil_append] at split
    rw [targetTexts, header, feed, trimmed, written, split, parts, List.map_id, kept]
    simp [filled]

end Dump

end ProofTutor
