import Mathlib.Data.List.Induction
import ProofTutor.Proofs.Dump.Printing

/-!
How a text of lines with separators between them comes apart whatever is written there. A piece that
leaves a list of children open goes on through the separators after it until the list is closed; where
every piece but the last closes its lists, the pieces are found as they were written.
-/
namespace ProofTutor

namespace Record

/-! ### Pieces and lines -/

def Fed (rest : List Char) : Prop :=
  ∀ c ∈ rest.head?, c = '\n'

theorem fedEnd : Fed [] := by simp [Fed]

theorem fedMark (rest : List Char) : Fed (lineMark ++ rest) := by simp [Fed, lineMark]

theorem depthAfterFed {rest : List Char} (fed : Fed rest) (c : Char) (cs : List Char)
    (depth : Nat) : depthAfter depth (c :: (cs ++ rest)) = depthAfter depth (c :: cs) := by
  cases cs with
  | nil =>
    have alone : depthAfter depth [c] = depth := by
      unfold depthAfter
      split <;> simp_all
    rw [List.nil_append, alone]
    cases rest with
    | nil => exact alone
    | cons d ds =>
      obtain rfl : d = '\n' := fed d (by simp)
      unfold depthAfter
      split <;> simp_all
  | cons d ds =>
    unfold depthAfter
    split <;> split <;> simp_all

theorem depthThroughFed {rest : List Char} (fed : Fed rest) (depth : Nat) (text : List Char) :
    depthThrough depth (text ++ rest) = depthThrough (depthThrough depth text) rest := by
  induction text generalizing depth with
  | nil => rfl
  | cons c cs ih => rw [List.cons_append, depthThrough, depthThrough, depthAfterFed fed, ih]

theorem separatorFed {rest : List Char} (fed : Fed rest) {text : List Char}
    (free : ¬separator <:+: text) : startsSeparator (text ++ rest) = false := by
  refine Bool.eq_false_iff.mpr fun found => free ?_
  obtain ⟨tail, same⟩ := startsSeparatorIff.mp found
  rcases List.append_eq_append_iff.mp same with ⟨beyond, inside, ends⟩ | ⟨more, inside, _⟩
  · cases beyond with
    | nil =>
      rw [List.append_nil] at inside
      exact inside ▸ List.infix_rfl
    | cons c beyond =>
      have feed : c = '\n' := fed c (by rw [ends]; rfl)
      have mark : c ∈ separator := inside ▸ (by simp)
      rw [feed] at mark
      exact absurd mark (by decide)
  · exact inside ▸ ⟨[],more,rfl⟩

theorem splitFed {rest : List Char} (fed : Fed rest) {text : List Char}
    (free : ¬separator <:+: text) (depth : Nat) : splitFrom 0 depth (text ++ rest) =
      text.foldr extendFirst (splitFrom 0 (depthThrough depth text) rest) := by
  induction text generalizing depth with
  | nil => rfl
  | cons c cs ih =>
    have unmarked := separatorFed fed free
    rw [List.cons_append] at unmarked
    rw [List.cons_append, splitFrom, if_neg (by simp [unmarked]), depthAfterFed fed,
      ih (fun inside => free (List.infix_cons inside))]
    rfl

theorem splitMark (rest : List Char) :
    splitFrom 0 0 (lineMark ++ rest) = ['\n'] :: splitFrom 0 0 ('\n' :: rest) := rfl

theorem splitMarkOpen (depth : Nat) (rest : List Char) :
    splitFrom 0 (depth + 1) (lineMark ++ rest) =
      lineMark.foldr extendFirst (splitFrom 0 (depth + 1) rest) := by
  simp only [lineMark, separator, List.cons_append, List.nil_append, splitFrom, depthAfter,
    List.foldr_cons, List.foldr_nil]
  rfl

/-! ### Groups -/

def grouped (depth : Nat) : List (List Char) → List (List Char)
  | [] => []
  | [text] => [text]
  | text :: texts =>
    if depthThrough depth text = 0 then text :: grouped 0 texts
    else
      match grouped (depthThrough depth text) texts with
      | [] => [text]
      | group :: groups => (text ++ lineMark ++ group) :: groups

theorem groupedSome (depth : Nat) {texts : List (List Char)} (nonempty : texts ≠ []) :
    grouped depth texts ≠ [] := by
  fun_cases grouped depth texts <;> simp_all

theorem freshStart {start text : List Char} (fresh : '¿' ∉ start) (free : ¬separator <:+: text) :
    ¬separator <:+: start ++ text := by
  induction start with
  | nil => exact free
  | cons c cs ih =>
    rw [List.mem_cons, not_or] at fresh
    rw [List.cons_append, List.infix_cons_iff, not_or]
    exact ⟨fun start => fresh.1 (List.cons_prefix_cons.mp start).1,ih fresh.2⟩

theorem freshDepth {start : List Char} (fresh : '¿' ∉ start) (depth : Nat) (text : List Char) :
    depthThrough depth (start ++ text) = depthThrough depth text := by
  obtain ⟨marked, same⟩ := unmarked fresh depth
  rw [depthThroughAppend marked, same]

theorem paddedCons (start group : List Char) {groups : List (List Char)} (nonempty : groups ≠ []) :
    padded start (group :: groups) = (start ++ group ++ ['\n']) :: padded ['\n'] groups := by
  cases groups with
  | nil => exact absurd rfl nonempty
  | cons next groups => rfl

theorem paddedExtend (start before group : List Char) (groups : List (List Char)) :
    (start ++ before).foldr extendFirst (padded [] (group :: groups)) =
      padded start ((before ++ group) :: groups) := by
  cases groups with
  | nil => simp [padded, extendAll]
  | cons next groups => simp [padded, extendAll]

theorem splitGrouped {texts : List (List Char)} (nonempty : texts ≠ [])
    (free : ∀ text ∈ texts, ¬separator <:+: text) {start : List Char} (fresh : '¿' ∉ start)
    (depth : Nat) : splitFrom 0 depth (start ++ Text.joinWith lineMark texts) =
      padded start (grouped depth texts) := by
  induction texts generalizing start depth with
  | nil => exact absurd rfl nonempty
  | cons text texts ih =>
    obtain ⟨here, others⟩ := List.forall_mem_cons.mp free
    have whole := freshStart fresh here
    have level := freshDepth fresh depth text
    cases texts with
    | nil =>
      have alone := splitFed fedEnd whole depth
      rw [List.append_nil, splitFrom, extendAll, List.append_nil] at alone
      exact alone
    | cons next texts =>
      have more : next :: texts ≠ [] := by simp
      rw [joinCons _ _ more, List.append_assoc, ← List.append_assoc start,
        splitFed (fedMark _) whole, level, grouped]
      · split
        · rename_i closed
          rw [closed]
          have rest := ih more others (by decide : '¿' ∉ ['\n']) 0
          rw [List.singleton_append] at rest
          rw [splitMark, rest, extendAll, paddedCons start text (groupedSome 0 more)]
        · rename_i opens
          obtain ⟨d, same⟩ := Nat.exists_eq_succ_of_ne_zero opens
          rw [same]
          have rest := ih more others (List.not_mem_nil : '¿' ∉ []) (d + 1)
          rw [List.nil_append] at rest
          rw [splitMarkOpen, rest]
          split
          · rename_i empty
            exact absurd empty (groupedSome (d + 1) more)
          · rename_i group groups found
            rw [found, ← List.foldr_append, List.append_assoc, paddedExtend]
      · simp

theorem groupedClosed {texts : List (List Char)}
    (closed : ∀ text ∈ texts.dropLast, depthThrough 0 text = 0) : grouped 0 texts = texts := by
  induction texts with
  | nil => rfl
  | cons text texts ih =>
    cases texts with
    | nil => rfl
    | cons next texts =>
      obtain ⟨here, others⟩ := List.forall_mem_cons.mp closed
      rw [grouped, if_pos here, ih others]
      simp

theorem groupedLength (depth : Nat) (texts : List (List Char)) :
    (grouped depth texts).length ≤ texts.length := by
  induction texts generalizing depth with
  | nil => exact Nat.le_refl _
  | cons text texts ih =>
    cases texts with
    | nil => exact Nat.le_refl _
    | cons next texts =>
      rw [grouped]
      · split
        · exact Nat.succ_le_succ (ih 0)
        · have rest := ih (depthThrough depth text)
          split
          · simp
          · rename_i found
            rw [found] at rest
            exact Nat.le_succ_of_le rest
      · simp

/-- A list that is left open before a separator costs a piece. -/
theorem groupedOpen {texts : List (List Char)} (all : (grouped 0 texts).length = texts.length) :
    ∀ text ∈ texts.dropLast, depthThrough 0 text = 0 := by
  induction texts with
  | nil => simp
  | cons text texts ih =>
    cases texts with
    | nil => simp
    | cons next texts =>
      rw [grouped] at all
      · split at all
        · rename_i closed
          exact List.forall_mem_cons.mpr ⟨closed,ih (Nat.succ.inj all)⟩
        · have fewer := groupedLength (depthThrough 0 text) (next :: texts)
          split at all
          · cases all
          · rename_i found
            rw [found] at fewer
            rw [List.length_cons] at all fewer
            rw [List.length_cons (a := text)] at all
            omega
      · simp

/-! ### Blanks around a text -/

theorem blankNoMark {c : Char} (blank : Text.isBlank c) : c ≠ '¿' := by
  rintro rfl
  cases blank

theorem splitBlankStart {c : Char} (blank : Text.isBlank c) (cs : List Char) :
    (split (c :: cs)).map Text.strip = (split cs).map Text.strip := by
  have other := blankNoMark blank
  have unmarked : startsSeparator (c :: cs) = false := by
    refine Bool.eq_false_iff.mpr fun found => ?_
    obtain ⟨rest, same⟩ := startsSeparatorIff.mp found
    exact other (List.cons.inj same).1
  have level : depthAfter 0 (c :: cs) = 0 := by
    unfold depthAfter
    split <;> simp_all
  rw [split, splitFrom, if_neg (by simp [unmarked]), level]
  cases parts : splitFrom 0 0 cs with
  | nil => exact absurd parts (splitFromSome 0 0 cs)
  | cons part parts' =>
    rw [split, parts, extendFirst, List.map_cons, List.map_cons, Text.stripBlankStart blank]

theorem startsSeparatorEnd {c : Char} (other : c ≠ '¿') (d : Char) (ds : List Char) :
    startsSeparator (d :: (ds ++ [c])) = startsSeparator (d :: ds) := by
  match ds with
  | [] | [e] =>
    unfold startsSeparator
    split <;> split <;> simp_all
  | e :: f :: ds =>
    unfold startsSeparator
    split <;> split <;> simp_all

theorem depthAfterEnd {c : Char} (blank : Text.isBlank c) (depth : Nat) (d : Char)
    (ds : List Char) : depthAfter depth (d :: (ds ++ [c])) = depthAfter depth (d :: ds) := by
  have opening : c ≠ '(' := by rintro rfl; cases blank
  have closing : c ≠ ')' := by rintro rfl; cases blank
  cases ds with
  | nil =>
    unfold depthAfter
    split <;> split <;> simp_all
  | cons e ds =>
    unfold depthAfter
    split <;> split <;> simp_all

theorem splitBlankEnd {c : Char} (blank : Text.isBlank c) {skip : Nat} (depth : Nat)
    {cs : List Char} (within : skip ≤ cs.length) : ∃ front last,
      splitFrom skip depth cs = front ++ [last] ∧
        splitFrom skip depth (cs ++ [c]) = front ++ [last ++ [c]] := by
  have other := blankNoMark blank
  induction cs generalizing skip depth with
  | nil =>
    obtain rfl : skip = 0 := by simpa using within
    have unmarked : startsSeparator [c] = false := by
      unfold startsSeparator
      split <;> simp_all
    exact ⟨[],[],rfl,by rw [List.nil_append, splitFrom, if_neg (by simp [unmarked])]; rfl⟩
  | cons d ds ih =>
    cases skip with
    | succ skip => exact ih depth (Nat.le_of_succ_le_succ within)
    | zero =>
      rw [List.cons_append, splitFrom, splitFrom, startsSeparatorEnd other, depthAfterEnd blank]
      split
      · rename_i found
        obtain ⟨rest, same⟩ := startsSeparatorIff.mp found.2
        have long : 2 ≤ ds.length := by
          have lengths := congrArg List.length same
          simp only [List.length_cons, separator, List.length_append, List.length_nil] at lengths
          omega
        obtain ⟨front, last, parts, parts'⟩ := ih 0 long
        exact ⟨[] :: front,last,by rw [parts]; rfl,by rw [parts']; rfl⟩
      · obtain ⟨front, last, parts, parts'⟩ := ih (depthAfter depth (d :: ds)) (Nat.zero_le _)
        rw [parts, parts']
        cases front with
        | nil => exact ⟨[],d :: last,rfl,rfl⟩
        | cons part front => exact ⟨(d :: part) :: front,last,rfl,rfl⟩

theorem splitStrip (cs : List Char) :
    (split (Text.strip cs)).map Text.strip = (split cs).map Text.strip := by
  have start (cs : List Char) :
      (split (Text.dropBlanks cs)).map Text.strip = (split cs).map Text.strip := by
    induction cs with
    | nil => rfl
    | cons c cs ih =>
      by_cases blank : Text.isBlank c
      · rw [splitBlankStart blank, ← ih, Text.dropBlanks, List.dropWhile_cons_of_pos blank]
        rfl
      · rw [Text.dropBlanks, List.dropWhile_cons_of_neg blank]
  have stop (cs : List Char) :
      (split (cs.rdropWhile Text.isBlank)).map Text.strip = (split cs).map Text.strip := by
    induction cs using List.reverseRecOn with
    | nil => rfl
    | append_singleton cs c ih =>
      by_cases blank : Text.isBlank c
      · obtain ⟨front, last, parts, parts'⟩ := splitBlankEnd blank 0 (Nat.zero_le cs.length)
        rw [List.rdropWhile_concat_pos _ _ _ blank, ih, split, split, parts, parts',
          List.map_append, List.map_append, List.map_singleton, List.map_singleton,
          Text.stripBlankEnd blank]
      · rw [List.rdropWhile_concat_neg _ _ _ blank]
  rw [Text.strip, Text.dropEndBlanksEq, stop, start]

theorem groupedWritten {depth : Nat} {texts : List (List Char)}
    (written : ∀ text ∈ texts, Text.strip text ≠ []) :
    ∀ group ∈ grouped depth texts, Text.strip group ≠ [] := by
  induction texts generalizing depth with
  | nil => simp [grouped]
  | cons text texts ih =>
    obtain ⟨here, others⟩ := List.forall_mem_cons.mp written
    cases texts with
    | nil => simpa [grouped] using here
    | cons next texts =>
      rw [grouped]
      · split
        · exact List.forall_mem_cons.mpr ⟨here,ih others⟩
        · split
          · simpa using here
          · rename_i group groups found
            have rest := @ih (depthThrough depth text) others
            rw [found] at rest
            obtain ⟨_, rest⟩ := List.forall_mem_cons.mp rest
            refine List.forall_mem_cons.mpr ⟨fun blank => here ?_,rest⟩
            rw [Text.stripNil] at blank ⊢
            exact fun c mem => blank c (by simp [mem])
      · simp

theorem prefixFed {mark text rest : List Char} (fed : Fed rest) (single : '\n' ∉ mark)
    (start : mark <+: text ++ rest) : mark <+: text := by
  obtain ⟨tail, same⟩ := start
  rcases List.append_eq_append_iff.mp same with ⟨more, inside, _⟩ | ⟨beyond, ends, within⟩
  · exact ⟨more,inside.symm⟩
  · cases beyond with
    | nil => exact ⟨[],by simp [ends]⟩
    | cons c beyond =>
      have feed : c = '\n' := fed c (by rw [within]; rfl)
      exact absurd (by simp [ends, feed]) single

end Record

namespace Dump

structure Targets (texts : List (List Char)) : Prop where
  nonempty : texts ≠ []
  written : ∀ text ∈ texts, Text.strip text ≠ []
  whole : ∀ text ∈ texts, ¬Record.separator <:+: text
  goals : ∀ text ∈ texts.head?, ¬noGoals <+: Text.dropBlanks text

theorem joinStart {texts : List (List Char)} {text : List Char} (first : texts.head? = some text) :
    ∃ rest, Record.Fed rest ∧ Text.joinWith Record.lineMark texts = text ++ rest := by
  match texts with
  | [] => cases first
  | [own] =>
    cases first
    exact ⟨[],Record.fedEnd,(List.append_nil _).symm⟩
  | own :: next :: texts =>
    cases first
    exact ⟨_,Record.fedMark _,by rw [Record.joinCons _ _ (by simp), List.append_assoc]⟩

theorem paddedStrip {start : List Char} (blank : start = [] ∨ start = ['\n'])
    (groups : List (List Char)) :
    (Record.padded start groups).map Text.strip = groups.map Text.strip := by
  refine Record.paddedMap fun before mem text _ => ?_
  have same : Text.strip (before ++ text) = Text.strip text := by
    have feed : before = [] ∨ before = ['\n'] := by
      rcases List.mem_pair.mp mem with rfl | rfl
      · exact blank
      · exact .inr rfl
    rcases feed with rfl | rfl
    · rfl
    · exact Text.stripBlankStart (by decide) text
  exact ⟨same,(Text.stripBlankEnd (by decide) _).trans same⟩

theorem targetsGrouped {texts : List (List Char)} (targets : Targets texts) :
    targetTexts (printTargets texts) = (Record.grouped 0 texts).map Text.strip := by
  obtain ⟨first, head⟩ := Option.ne_none_iff_exists'.mp
    (fun empty => targets.nonempty (List.head?_eq_none_iff.mp empty))
  have mem := List.mem_of_mem_head? head
  obtain ⟨rest, fed, joined⟩ := joinStart head
  have header : dropHeader targetsHeader (printTargets texts) =
      '\n' :: Text.joinWith Record.lineMark texts := dropHeaderOwn (by decide) (by decide) _
  have feed : Text.strip ('\n' :: Text.joinWith Record.lineMark texts) =
      Text.strip (Text.joinWith Record.lineMark texts) := rfl
  have nonempty : Text.strip (Text.joinWith Record.lineMark texts) ≠ [] := by
    intro blank
    rw [Text.stripNil, joined] at blank
    exact targets.written first mem (Text.stripNil.mpr fun c inside => blank c (by simp [inside]))
  have goals : ¬noGoals <+: Text.strip (Text.joinWith Record.lineMark texts) := by
    intro notice
    have solid : Text.dropBlanks first ≠ [] := by
      intro empty
      exact targets.written first mem (by rw [Text.strip, empty]; rfl)
    have start : Text.strip (Text.joinWith Record.lineMark texts) <+:
        Text.dropBlanks first ++ rest := by
      have dropped : Text.dropBlanks (first ++ rest) = Text.dropBlanks first ++ rest := by
        rw [Text.dropBlanks, List.dropWhile_append, if_neg (by simpa [Text.dropBlanks] using solid)]
        rfl
      rw [joined, Text.strip, Text.dropEndBlanksEq, dropped]
      exact List.rdropWhile_prefix ..
    exact targets.goals first head (Record.prefixFed fed (by decide) (notice.trans start))
  have split := Record.splitGrouped targets.nonempty targets.whole (List.not_mem_nil : '¿' ∉ []) 0
  have kept : ((Record.grouped 0 texts).map Text.strip).filter (· ≠ []) =
      (Record.grouped 0 texts).map Text.strip := by
    refine List.filter_eq_self.mpr fun text inside => ?_
    obtain ⟨group, among, rfl⟩ := List.mem_map.mp inside
    simpa using Record.groupedWritten targets.written group among
  have notice : (Text.stripHead? noGoals
      (Text.strip (Text.joinWith Record.lineMark texts))).isSome = false :=
    Bool.eq_false_iff.mpr fun found => goals (Text.headSome.mp found)
  rw [targetTexts, header, feed, Record.splitStrip, Record.split]
  rw [List.nil_append] at split
  rw [split, paddedStrip (.inl rfl), kept, notice]
  simp [nonempty]

/-! ### Contexts -/

def Lines (block : List (List Char)) : Prop :=
  ∀ line ∈ block, ¬Record.separator <:+: line ∧ '\n' ∉ line

theorem infixFeed {mark before after : List Char} (single : '\n' ∉ mark)
    (inside : mark <:+: before ++ '\n' :: after) : mark <:+: before ∨ mark <:+: after := by
  obtain ⟨front, tail, same⟩ := inside
  rw [List.append_assoc] at same
  rcases List.append_eq_append_iff.mp same with ⟨beyond, rfl, within⟩ | ⟨beyond, rfl, within⟩
  · have start : mark <+: beyond :=
      @Record.prefixFed _ _ ('\n' :: after) (by simp [Record.Fed]) single ⟨tail,within⟩
    exact .inl (start.isInfix.trans (List.suffix_append front beyond).isInfix)
  · cases beyond with
    | nil =>
      cases mark with
      | nil => exact .inl List.nil_infix
      | cons c mark =>
        have feed : '\n' = c := (List.cons.inj within).1
        exact absurd (List.mem_cons.mpr (.inl feed)) single
    | cons c beyond =>
      obtain ⟨_, rfl⟩ := List.cons.inj within
      exact .inr ⟨beyond,tail,(List.append_assoc ..)⟩

theorem blockFree {block : List (List Char)} (lines : Lines block) :
    ¬Record.separator <:+: blockText block := by
  induction block with
  | nil => decide
  | cons line block ih =>
    obtain ⟨⟨free, _⟩, others⟩ := List.forall_mem_cons.mp lines
    rcases eq_or_ne block [] with rfl | nonempty
    · rwa [blockText, Text.joinWith]
    · rw [blockText, Record.joinCons _ _ nonempty, List.append_assoc, List.singleton_append]
      intro inside
      rcases infixFeed (by decide) inside with here | later
      · exact free here
      · exact ih others later

theorem blockClosed {block : List (List Char)}
    (closed : ∀ line ∈ block, Record.depthThrough 0 line = 0) :
    Record.depthThrough 0 (blockText block) = 0 := by
  induction block with
  | nil => rfl
  | cons line block ih =>
    obtain ⟨here, others⟩ := List.forall_mem_cons.mp closed
    rcases eq_or_ne block [] with rfl | nonempty
    · rwa [blockText, Text.joinWith]
    · rw [blockText, Record.joinCons _ _ nonempty, List.append_assoc, List.singleton_append,
        Record.depthThroughFed (by simp [Record.Fed]), here]
      exact ih others

theorem keptLine {line : List Char} (single : '\n' ∉ line) :
    keptLines line = [Text.strip line].filter (· ≠ []) := by
  rw [keptPieces, Text.feedLinesFeedless single]
  rfl

theorem keptBlock {block : List (List Char)} (lines : Lines block) :
    keptLines (blockText block) = (block.map Text.strip).filter (· ≠ []) := by
  induction block with
  | nil => rfl
  | cons line block ih =>
    obtain ⟨⟨_, single⟩, others⟩ := List.forall_mem_cons.mp lines
    rcases eq_or_ne block [] with rfl | nonempty
    · rw [blockText, Text.joinWith, keptLine single]
      rfl
    · rw [blockText, Record.joinCons _ _ nonempty, List.append_assoc, List.singleton_append, keptAppend,
        keptLine single]
      show _ = ([Text.strip line] ++ block.map Text.strip).filter (· ≠ [])
      rw [List.filter_append, ← ih others]
      rfl

theorem blocksGrouped {blocks : List (List (List Char))} (nonempty : blocks ≠ [])
    (lines : ∀ block ∈ blocks, Lines block) : contextBlocks (printBlocks blocks) =
      (Record.grouped 0 (blocks.map blockText)).map keptLines := by
  have free : ∀ text ∈ blocks.map blockText, ¬Record.separator <:+: text := by
    intro text mem
    obtain ⟨block, inside, rfl⟩ := List.mem_map.mp mem
    exact blockFree (lines block inside)
  show (Record.split (dropHeader contextHeader (printBlocks blocks))).map keptLines = _
  rw [printBlocks, dropHeaderOwn (by decide) (by decide), ← List.singleton_append, Record.split,
    Record.splitGrouped (by simpa using nonempty) free (by decide), keptPadded]

theorem blocksClosed {blocks : List (List (List Char))} (nonempty : blocks ≠ [])
    (lines : ∀ block ∈ blocks, Lines block)
    (closed : ∀ block ∈ blocks.dropLast, ∀ line ∈ block, Record.depthThrough 0 line = 0) :
    contextBlocks (printBlocks blocks) =
      blocks.map fun block => (block.map Text.strip).filter (· ≠ []) := by
  have each : ∀ text ∈ (blocks.map blockText).dropLast, Record.depthThrough 0 text = 0 := by
    rw [← List.map_dropLast]
    intro text mem
    obtain ⟨block, inside, rfl⟩ := List.mem_map.mp mem
    exact blockClosed (closed block inside)
  rw [blocksGrouped nonempty lines, Record.groupedClosed each, List.map_map]
  exact List.map_congr_left fun block mem => keptBlock (lines block mem)

end Dump
end ProofTutor
