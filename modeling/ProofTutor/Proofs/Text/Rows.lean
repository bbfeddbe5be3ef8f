import Mathlib.Data.List.Basic
import ProofTutor.Proofs.Text.Basic
import ProofTutor.Text.Basic

/-!
The rows of a text are what its line feeds end, as a reader of the file counts them. Lines that are
joined to a text come back as its rows when they have no feed of their own. A blank at an end of a text
changes no word and a character that is no blank lengthens the last one; so it is of feeds and rows.
-/

namespace ProofTutor.Text

def rows (s : String) : List String :=
  (feedLines s.toList).1.map .ofList

def rowsOf (line : String) : List String :=
  rows (line ++ "\n")

def feeds (s : String) : Nat :=
  s.toList.count '\n'

theorem feedLinesFeed (cs : List Char) :
    feedLines ('\n' :: cs) = ([] :: (feedLines cs).1, (feedLines cs).2) := by
  simp [feedLines]

theorem feedLinesRest {c : Char} {cs : List Char} (other : c ≠ '\n') (feedless : (feedLines cs).1 = []) :
    feedLines (c :: cs) = ([], c :: (feedLines cs).2) := by
  simp [feedLines, other, feedless]

theorem feedLinesLine {c : Char} {cs line : List Char} {lines : List (List Char)} (other : c ≠ '\n')
    (ended : (feedLines cs).1 = line :: lines) :
    feedLines (c :: cs) = ((c :: line) :: lines, (feedLines cs).2) := by
  simp [feedLines, other, ended]

theorem feedLinesCount (cs : List Char) : (feedLines cs).1.length = cs.count '\n' := by
  induction cs with
  | nil => rfl
  | cons c cs ih =>
    by_cases feed : c = '\n'
    · rw [feed, feedLinesFeed, List.length_cons, ih, List.count_cons_self]
    · rw [List.count_cons_of_ne feed, ← ih]
      cases pieces : (feedLines cs).1 with
      | nil => rw [feedLinesRest feed pieces]
      | cons line lines => rw [feedLinesLine feed pieces, List.length_cons, List.length_cons]

theorem feedLinesAppend (xs ys : List Char) :
    feedLines (xs ++ '\n' :: ys) =
      ((feedLines (xs ++ ['\n'])).1 ++ (feedLines ys).1, (feedLines ys).2) := by
  induction xs with
  | nil => simp [feedLinesFeed, feedLines]
  | cons c cs ih =>
    rw [List.cons_append, List.cons_append]
    by_cases feed : c = '\n'
    · rw [feed, feedLinesFeed, feedLinesFeed, ih, List.cons_append]
    · have count := feedLinesCount (cs ++ ['\n'])
      cases pieces : (feedLines (cs ++ ['\n'])).1 with
      | nil => simp [pieces] at count
      | cons line lines =>
        rw [pieces, List.cons_append] at ih
        have first : (feedLines (cs ++ '\n' :: ys)).1 = line :: (lines ++ (feedLines ys).1) := by rw [ih]
        rw [feedLinesLine feed pieces, feedLinesLine feed first, ih, List.cons_append]

theorem feedLinesFeedless {cs : List Char} (whole : '\n' ∉ cs) :
    feedLines (cs ++ ['\n']) = ([cs], []) := by
  induction cs with
  | nil => simp [feedLines]
  | cons c cs ih =>
    rw [List.mem_cons, not_or] at whole
    rw [List.cons_append, feedLines, ih whole.2]
    simp [Ne.symm whole.1]

theorem feedLinesEnded (cs : List Char) :
    (feedLines (cs ++ ['\n'])).1 = (feedLines cs).1 ++ [(feedLines cs).2] := by
  induction cs with
  | nil => simp [feedLines]
  | cons c cs ih =>
    rw [List.cons_append]
    by_cases feed : c = '\n'
    · rw [feed, feedLinesFeed, feedLinesFeed, ih, List.cons_append]
    · cases pieces : (feedLines cs).1 with
      | nil =>
        rw [pieces, List.nil_append] at ih
        rw [feedLinesLine feed ih, feedLinesRest feed pieces, List.nil_append]
      | cons line lines =>
        rw [pieces, List.cons_append] at ih
        rw [feedLinesLine feed ih, feedLinesLine feed pieces, List.cons_append]

theorem feedLinesNone {cs : List Char} (feedless : (feedLines cs).1 = []) : (feedLines cs).2 = cs := by
  induction cs with
  | nil => rfl
  | cons c cs ih =>
    by_cases feed : c = '\n'
    · rw [feed, feedLinesFeed] at feedless
      contradiction
    · cases pieces : (feedLines cs).1 with
      | nil => rw [feedLinesRest feed pieces, ih pieces]
      | cons line lines =>
        rw [feedLinesLine feed pieces] at feedless
        contradiction

theorem feedLinesPieces (cs : List Char) :
    (∀ line ∈ (feedLines cs).1, '\n' ∉ line) ∧ '\n' ∉ (feedLines cs).2 := by
  induction cs with
  | nil => simp [feedLines]
  | cons c cs ih =>
    obtain ⟨lines, rest⟩ := ih
    by_cases feed : c = '\n'
    · rw [feed, feedLinesFeed]
      exact ⟨List.forall_mem_cons.mpr ⟨List.not_mem_nil, lines⟩, rest⟩
    · cases pieces : (feedLines cs).1 with
      | nil =>
        rw [feedLinesRest feed pieces]
        exact ⟨by simp, by simp [Ne.symm feed, rest]⟩
      | cons line more =>
        rw [feedLinesLine feed pieces]
        rw [pieces, List.forall_mem_cons] at lines
        exact ⟨List.forall_mem_cons.mpr ⟨by simp [Ne.symm feed, lines.1], lines.2⟩, rest⟩

theorem dropReturnCases (line : List Char) :
    line = dropReturn line ∨ line = dropReturn line ++ ['\r'] := by
  fun_induction dropReturn line with
  | case1 => exact .inl rfl
  | case2 => exact .inr rfl
  | case3 c cs _ ih => simpa using ih

theorem dropReturnSource {line : List Char} {c : Char} (kept : c ∈ dropReturn line) : c ∈ line := by
  fun_induction dropReturn line with
  | case1 => exact kept
  | case2 => simp at kept
  | case3 d ds _ ih =>
    rcases List.mem_cons.mp kept with same | later
    · exact List.mem_cons.mpr (.inl same)
    · exact List.mem_cons_of_mem _ (ih later)

theorem linesFeedless {s line : String} (among : line ∈ lines s) : '\n' ∉ line.toList := by
  obtain ⟨cs, inside, rfl⟩ := List.mem_map.mp among
  obtain ⟨ended, rest⟩ := feedLinesPieces s.toList
  have dropped : ∀ cs ∈ (feedLines s.toList).1.map dropReturn, '\n' ∉ cs := by
    intro cs mapped feed
    obtain ⟨piece, from_, rfl⟩ := List.mem_map.mp mapped
    exact ended piece from_ (dropReturnSource feed)
  rw [String.toList_ofList]
  rw [linesOf] at inside
  split at inside
  · rename_i pieces same
    rw [same] at dropped
    exact dropped cs inside
  · rename_i pieces last _ same
    rw [same] at dropped rest
    rcases List.mem_append.mp inside with before | final
    · exact dropped cs before
    · rw [List.mem_singleton.mp final]
      exact rest

theorem linesSome {s : String} (nonempty : s ≠ "") : lines s ≠ [] := by
  intro lineless
  have empty : linesOf s.toList = [] := List.map_eq_nil_iff.mp lineless
  rw [linesOf] at empty
  split at empty
  · rename_i pieces same
    rw [List.map_eq_nil_iff.mp empty] at same
    have rest := feedLinesNone (congrArg Prod.fst same)
    rw [same] at rest
    exact nonempty (String.toList_eq_nil_iff.mp rest.symm)
  · simp at empty

theorem rowsAppend (line t : String) : rows (line ++ "\n" ++ t) = rowsOf line ++ rows t := by
  simp [rowsOf, rows, feedLinesAppend line.toList t.toList]

theorem rowsFeedless {line : String} (whole : '\n' ∉ line.toList) : rowsOf line = [line] := by
  simp [rowsOf, rows, feedLinesFeedless whole]

theorem rowsCount (line : String) : (rowsOf line).length = feeds line + 1 := by
  simp [rowsOf, rows, feeds, feedLinesCount]

theorem rowsJoined {lines : List String} (nonempty : lines ≠ []) :
    rows (join "\n" lines ++ "\n") = lines.flatMap rowsOf := by
  induction lines with
  | nil => exact absurd rfl nonempty
  | cons line lines ih =>
    cases lines with
    | nil => simp [join, rowsOf]
    | cons next lines =>
      have apart : join "\n" (line :: next :: lines) ++ "\n" =
          line ++ "\n" ++ (join "\n" (next :: lines) ++ "\n") := by
        simp only [join, String.append_assoc]
      rw [apart, rowsAppend, ih (by simp), List.flatMap_cons (x := line)]

theorem joinLast (mark last : String) {lines : List String} (nonempty : lines ≠ []) :
    join mark (lines ++ [last]) = join mark lines ++ mark ++ last := by
  induction lines with
  | nil => exact absurd rfl nonempty
  | cons line lines ih =>
    cases lines with
    | nil => rfl
    | cons next lines =>
      have rest : join mark (next :: lines ++ [last]) = join mark (next :: lines) ++ mark ++ last :=
        ih (by simp)
      simp only [List.cons_append, join] at rest ⊢
      simp only [rest, String.append_assoc]

theorem flatMapFeedless {lines : List String} (whole : ∀ line ∈ lines, '\n' ∉ line.toList) :
    lines.flatMap rowsOf = lines := by
  induction lines with
  | nil => rfl
  | cons line lines ih =>
    rw [List.forall_mem_cons] at whole
    rw [List.flatMap_cons, rowsFeedless whole.1, ih whole.2, List.singleton_append]

theorem cutLastSource {mark text before after : List Char}
    (cut : cutLast? mark text = some (before, after)) : text = before ++ mark ++ after := by
  induction text generalizing before with
  | nil =>
    simp only [cutLast?, Option.map_eq_some_iff, Prod.mk.injEq] at cut
    obtain ⟨r, found, rfl, rfl⟩ := cut
    simpa using stripHeadSome.mp found
  | cons c cs ih =>
    rw [cutLast?] at cut
    split at cut
    · rename_i earlier later inside
      cases cut
      simp [ih inside]
    · obtain ⟨r, found, pair⟩ := Option.map_eq_some_iff.mp cut
      cases pair
      simpa using stripHeadSome.mp found

/-! ### Pieces -/

variable {isMark : Char → Bool} {cs : List Char} {d : Char}

theorem splitAtOn (isMark : Char → Bool) (cs : List Char) : splitAt isMark cs = cs.splitOnP isMark := by
  induction cs with
  | nil => rfl
  | cons c cs ih =>
    obtain ⟨piece, pieces, split⟩ := List.exists_cons_of_ne_nil (List.splitOnP_ne_nil isMark cs)
    rw [splitAt, ih, List.splitOnP_cons_eq_if_modifyHead, split]
    rfl

theorem splitAtBegun (isMark : Char → Bool) (plain : isMark d = false) (cs : List Char) :
    ∃ first pieces, splitAt isMark cs = first :: pieces ∧
      splitAt isMark (d :: cs) = (d :: first) :: pieces := by
  obtain ⟨first, pieces, split⟩ := List.exists_cons_of_ne_nil (List.splitOnP_ne_nil isMark cs)
  rw [← splitAtOn] at split
  exact ⟨first,pieces,split,by simp [splitAt, plain, split]⟩

theorem splitAtEnded (isMark : Char → Bool) (plain : isMark d = false) (cs : List Char) :
    ∃ pieces last,
      splitAt isMark cs = pieces ++ [last] ∧
      splitAt isMark (cs ++ [d]) = pieces ++ [last ++ [d]] := by
  induction cs with
  | nil => exact ⟨[],[],rfl,by simp [splitAt, plain]⟩
  | cons c cs ih =>
    obtain ⟨pieces, last, before, after⟩ := ih
    rw [List.cons_append, splitAt, splitAt, before, after]
    by_cases mark : isMark c
    · exact ⟨[] :: pieces,last,by simp [mark],by simp [mark]⟩
    · cases pieces with
      | nil => exact ⟨[],c :: last,by simp [mark],by simp [mark]⟩
      | cons piece pieces => exact ⟨(c :: piece) :: pieces,last,by simp [mark],by simp [mark]⟩

theorem splitAtPieces {piece : List Char} (among : piece ∈ splitAt isMark cs) :
    ∀ c ∈ piece, isMark c = false := by
  induction cs generalizing piece with
  | nil => simp_all [splitAt]
  | cons c cs ih =>
    by_cases mark : isMark c
    · rw [splitAt, if_pos mark] at among
      rcases List.mem_cons.mp among with rfl | later
      · exact List.forall_mem_nil _
      · exact ih later
    · rw [Bool.not_eq_true] at mark
      obtain ⟨first, rest, before, after⟩ := splitAtBegun isMark mark cs
      rw [before] at ih
      rw [after] at among
      rcases List.mem_cons.mp among with rfl | later
      · exact List.forall_mem_cons.mpr ⟨mark,ih List.mem_cons_self⟩
      · exact ih (List.mem_cons_of_mem _ later)

/-! ### Words -/

theorem wordsParted (mark : isMark d = true) (xs ys : List Char) :
    words isMark (xs ++ d :: ys) = words isMark xs ++ words isMark ys := by
  rw [words, splitAtOn, List.splitOnP_append_cons _ _ mark, List.filter_append, ← splitAtOn,
    ← splitAtOn]
  rfl

theorem wordsWhole (nonempty : cs ≠ []) (plain : ∀ c ∈ cs, isMark c = false) : words isMark cs = [cs] := by
  rw [words, splitAtOn, List.splitOnP_eq_singleton plain]
  simp [nonempty]

theorem wordsPlain {word : List Char} (among : word ∈ words isMark cs) :
    word ≠ [] ∧ ∀ c ∈ word, isMark c = false := by
  obtain ⟨piece, nonempty⟩ := List.mem_filter.mp among
  exact ⟨by simpa using nonempty,splitAtPieces piece⟩

theorem wordsEnded (isMark : Char → Bool) (plain : isMark d = false) (cs : List Char) :
    ∃ front last, words isMark cs = front ++ (if last = [] then [] else [last]) ∧
      words isMark (cs ++ [d]) = front ++ [last ++ [d]] := by
  obtain ⟨pieces, last, before, after⟩ := splitAtEnded isMark plain cs
  refine ⟨pieces.filter (· ≠ []),last,?_,?_⟩
  · rw [words, before, List.filter_append]
    by_cases empty : last = [] <;> simp [empty]
  · rw [words, after, List.filter_append]
    simp

/-! ### Trimming -/

theorem stripLast (plain : isBlank d = false) (cs : List Char) :
    (strip (cs ++ [d])).getLast? = some d := by
  obtain ⟨front, same⟩ : ∃ front, dropBlanks (cs ++ [d]) = front ++ [d] := by
    rw [dropBlanks, List.dropWhile_append]
    split
    · exact ⟨[],by simp [plain]⟩
    · exact ⟨_,rfl⟩
  rw [strip, same, dropEndBlanksEq, List.rdropWhile_concat_neg _ _ _ (by simp [plain])]
  simp

/-! ### Rows -/

theorem feedLinesSplit (cs : List Char) :
    (feedLines cs).1 ++ [(feedLines cs).2] = splitAt (· = '\n') cs := by
  induction cs with
  | nil => rfl
  | cons c cs ih =>
    rw [splitAt, ← ih]
    by_cases feed : c = '\n'
    · rw [feed, feedLinesFeed]
      simp
    · cases pieces : (feedLines cs).1 with
      | nil => simp [feedLinesRest feed pieces, feed]
      | cons line lines => simp [feedLinesLine feed pieces, feed]

theorem rowsOfSplit (s : String) : rowsOf s = (splitAt (· = '\n') s.toList).map .ofList := by
  rw [rowsOf, rows, String.toList_append, ← feedLinesSplit]
  exact congrArg (List.map String.ofList) (feedLinesEnded s.toList)

def unreturned (line : String) : String :=
  .ofList (dropReturn line.toList)

theorem linesEnded (s : String) : lines (s ++ "\n") = (rows (s ++ "\n")).map unreturned := by
  have ended : (feedLines (s ++ "\n").toList).2 = [] := by
    rw [String.toList_append]
    exact congrArg Prod.snd (feedLinesAppend s.toList [])
  rw [lines, linesOf, rows, List.map_map]
  split
  · rename_i pieces same
    rw [same, List.map_map]
    simp [Function.comp_def, unreturned]
  · rename_i pieces rest unended same
    exact absurd (ended ▸ congrArg Prod.snd same).symm unended

theorem rowsOfLines {s row : String} (among : row ∈ rowsOf s) :
    row = "" ∨ row ∈ lines s ∨ unreturned row ∈ lines s := by
  obtain ⟨cs, piece, rfl⟩ := List.mem_map.mp among
  have content : (s ++ "\n").toList = s.toList ++ ['\n'] := String.toList_append
  rw [content, feedLinesEnded] at piece
  rw [lines, linesOf, unreturned, String.toList_ofList]
  rcases List.mem_append.mp piece with ended | last
  · have dropped := List.mem_map_of_mem (f := dropReturn) ended
    refine .inr (.inr (List.mem_map_of_mem ?_))
    split
    · rename_i pieces same
      rwa [same] at dropped
    · rename_i pieces rest _ same
      rw [same] at dropped
      exact List.mem_append_left _ dropped
  · rw [List.mem_singleton.mp last]
    split
    · rename_i pieces same
      exact .inl (by rw [same])
    · rename_i pieces rest _ same
      exact .inr (.inl (List.mem_map_of_mem (List.mem_append_right _ (by simp [same]))))

end ProofTutor.Text
