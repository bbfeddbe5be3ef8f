import Mathlib.Data.List.Chain
import Mathlib.Data.List.Permutation
import ProofTutor.Proofs.Course.BatchSheet
import ProofTutor.Proofs.Course.LiveLines

/-! The line numbers of a batch file against the rows of its text: every exercise has its two marked
rows between its `begin` and its `end`, no other row is a marker, and the other rows are the source
without the proof bodies. A file is built for exercises that fit into the source and lie apart, and
only for these; the source is never cut outside its lines. -/
namespace ProofTutor

namespace Exercise

def Apart (a b : Exercise) : Prop :=
  a.endLine < b.beginLine ∨ b.endLine < a.beginLine

instance (a b : Exercise) : Decidable (a.Apart b) :=
  inferInstanceAs (Decidable (_ ∨ _))

theorem negateFirstLength (core : String) (lines : List String) :
    (negateFirst core lines).length = lines.length := by
  induction lines with
  | nil => rfl
  | cons line lines ih =>
    rw [negateFirst]
    split
    · rfl
    · rw [List.length_cons, ih, List.length_cons]

theorem negatedLength (e : Exercise) (lines : List String) :
    (e.negated lines).length = lines.length := by
  rw [negated]
  split
  · rw [List.length_append, List.length_reverse, negateFirstLength, List.length_reverse,
      ← List.length_append, List.take_append_drop]
  · rfl

end Exercise

def Analysis.offset : Analysis → Nat
  | .context => 0
  | .targets => 1

namespace BatchFile

/-! ### The order of the exercises -/

theorem orderedPerm (es : List Exercise) :
    (ordered es).Perm (es.zipIdx.map fun (e, i) => (i, e)) :=
  List.mergeSort_perm _ _

theorem orderedExercises (es : List Exercise) : ((ordered es).map Prod.snd).Perm es := by
  have perm := (orderedPerm es).map Prod.snd
  rw [List.map_map] at perm
  exact perm.trans (List.Perm.of_eq (List.zipIdx_map_fst 0 es))

theorem orderedMem {es : List Exercise} {i : Nat} {e : Exercise} :
    (i, e) ∈ ordered es ↔ es[i]? = some e := by
  rw [(orderedPerm es).mem_iff, ← List.mk_mem_zipIdx_iff_getElem?]
  simp

theorem orderedNumbers (es : List Exercise) : ((ordered es).map Prod.fst).Nodup := by
  have perm := (orderedPerm es).map Prod.fst
  rw [List.map_map] at perm
  rw [(perm.trans (List.Perm.of_eq (List.zipIdx_map_snd 0 es))).nodup_iff]
  exact List.nodup_range'

theorem orderedSorted (es : List Exercise) :
    ((ordered es).map Prod.snd).Pairwise fun a b => a.beginLine ≤ b.beginLine := by
  have sorted : (ordered es).Pairwise fun a b => decide (a.2.beginLine ≤ b.2.beginLine) = true :=
    List.pairwise_mergeSort (by simp; omega) (by simp; omega) _
  exact List.pairwise_map.mpr (sorted.imp of_decide_eq_true)

theorem overlapNone {es : List Exercise} :
    overlap? es = none ↔ es.IsChain fun a b => a.endLine < b.beginLine := by
  induction es with
  | nil => simp [overlap?]
  | cons a es ih =>
    cases es with
    | nil => simp [overlap?]
    | cons b es =>
      rw [List.isChain_cons_cons, ← ih, overlap?]
      by_cases late : b.beginLine ≤ a.endLine
      · simp [late]
      · simp [late, Nat.lt_of_not_le late]

theorem chainApart {es : List Exercise} (fits : ∀ e ∈ es, e.beginLine < e.endLine)
    (chain : es.IsChain fun a b => a.endLine < b.beginLine) :
    es.Pairwise fun a b => a.endLine < b.beginLine := by
  induction es with
  | nil => exact .nil
  | cons a es ih =>
    have pairs := ih (List.forall_mem_cons.mp fits).2 chain.tail
    refine List.pairwise_cons.mpr ⟨fun b among => ?_, pairs⟩
    cases es with
    | nil => simp at among
    | cons next es =>
      have first := (List.isChain_cons_cons.mp chain).1
      rcases List.mem_cons.mp among with rfl | later
      · exact first
      · have between := fits next (by simp)
        have := (List.pairwise_cons.mp pairs).1 b later
        omega

theorem overlapApart {es : List Exercise} {count : Nat} (fits : ∀ e ∈ es, e.FitsIn count) :
    overlap? ((ordered es).map Prod.snd) = none ↔ es.Pairwise Exercise.Apart := by
  have perm := orderedExercises es
  have inOrder : ∀ e ∈ (ordered es).map Prod.snd, e.beginLine < e.endLine :=
    fun e among => (fits e (perm.mem_iff.mp among)).2.1
  have symmetric {a b : Exercise} (apart : a.Apart b) : b.Apart a := Or.symm apart
  rw [overlapNone, ← perm.pairwise_iff symmetric]
  constructor
  · exact fun chain => (chainApart inOrder chain).imp Or.inl
  · intro apart
    refine (((orderedSorted es).and apart).imp_of_mem ?_).isChain
    rintro a b - among ⟨sorted, before | after⟩
    · exact before
    · have := inOrder b among
      omega

theorem orderedChain {count next : Nat} {order : List (Nat × Exercise)}
    (fits : ∀ p ∈ order, p.2.FitsIn count)
    (chain : (order.map Prod.snd).IsChain fun a b => a.endLine < b.beginLine)
    (first : ∀ p ∈ order.head?, next < p.2.beginLine) (inside : next < count) :
    Ordered count next order := by
  induction order generalizing next with
  | nil => exact inside
  | cons p order ih =>
    obtain ⟨⟨starts, ends, last⟩, later⟩ := List.forall_mem_cons.mp fits
    refine ⟨first p rfl, ends, ih later chain.tail ?_ (by omega)⟩
    intro q head
    cases order with
    | nil => cases head
    | cons r order =>
      cases head
      have := (List.isChain_cons_cons.mp chain).1
      omega

/-! ### Cutting the source -/

def slice? {α : Type} (lines : List α) (start stop : Nat) : Option (List α) :=
  if start ≤ stop ∧ stop ≤ lines.length then some ((lines.take stop).drop start) else none

def assembleWithin? (source : List String) (sequence : Nat) :
    (next written : Nat) → List (Nat × Exercise) → Option (List String × List Marker)
  | next, _, [] => (slice? source next source.length).map (·, [])
  | next, written, (i, e) :: rest => do
    let kept ← slice? source next e.beginLine
    let here := written + kept.length
    match e.endLine with
    | 0 => none
    | last + 1 =>
      let (lines, markers) ← assembleWithin? source sequence last (here + 2) rest
      return (kept ++ markedLines sequence i ++ lines,
        { exercise := i, contextLine := here + 1 } :: markers)

def negatedLines (c : Course) (es : List Exercise) : List String :=
  es.foldl (fun lines e => e.negated lines) c.lines

def buildWithin? (c : Course) (es : List Exercise) (sequence : Nat) :
    Option (Except CourseError BatchFile) :=
  match overlap? ((ordered es).map Prod.snd), es.forM c.check with
  | some (a, b), _ => some (.error (.overlap a b))
  | none, .error error => some (.error error)
  | none, .ok () =>
    (assembleWithin? (negatedLines c es) sequence 0 0 (ordered es)).map fun (lines, markers) =>
      .ok { content := Assembler.fileOf lines, sequence, markers }

theorem sliceInside {α : Type} {lines : List α} {start stop : Nat} (forward : start ≤ stop)
    (inside : stop ≤ lines.length) :
    slice? lines start stop = some ((lines.take stop).drop start) :=
  if_pos ⟨forward, inside⟩

theorem assembledWithin {source : List String} {sequence next written : Nat}
    {order : List (Nat × Exercise)} (ordered : Ordered source.length next order) :
    assembleWithin? source sequence next written order =
      some (assemble source sequence next written order) := by
  induction order generalizing next written with
  | nil =>
    have inside := ordered.inside
    rw [assembleWithin?, sliceInside (by omega) (Nat.le_refl _), List.take_length]
    rfl
  | cons p order ih =>
    have fits := (List.forall_mem_cons.mp ordered.fits).1
    obtain ⟨starts, ends, rest⟩ := ordered
    obtain ⟨last, same⟩ : ∃ last, p.2.endLine = last + 1 := ⟨p.2.endLine - 1, by omega⟩
    rw [same, Nat.add_sub_cancel] at rest
    obtain ⟨-, -, inside⟩ := fits
    have kept := sliceInside (Nat.le_of_lt starts) (by omega : p.2.beginLine ≤ source.length)
    simp only [assembleWithin?, assemble, kept, same, Nat.add_sub_cancel, ih rest, bind,
      Option.bind]
    rfl

/-! ### Building -/

theorem negatedLinesLength (c : Course) (es : List Exercise) :
    (negatedLines c es).length = c.lines.length := by
  rw [negatedLines]
  generalize c.lines = lines
  induction es generalizing lines with
  | nil => rfl
  | cons e es ih => rw [List.foldl_cons, ih, Exercise.negatedLength]

theorem negatedLinesFeedless (c : Course) (es : List Exercise) : Feedless (negatedLines c es) := by
  rw [negatedLines]
  have whole : Feedless c.lines := fun line => Text.linesFeedless
  generalize c.lines = lines at whole ⊢
  induction es generalizing lines with
  | nil => exact whole
  | cons e es ih => exact ih _ (e.negatedFeedless whole)

theorem checksPass {c : Course} {es : List Exercise} :
    es.forM c.check = .ok () ↔ ∀ e ∈ es, e.FitsIn c.lines.length := by
  induction es with
  | nil => simp [pure, Except.pure]
  | cons e es ih =>
    rw [List.forM, List.forall_mem_cons, ← ih, Course.check]
    by_cases fits : e.FitsIn c.lines.length
    · simp [fits, bind, Except.bind]
    · simp [fits, bind, Except.bind]

theorem buildEq (c : Course) (es : List Exercise) (sequence : Nat) : build c es sequence =
    match overlap? ((ordered es).map Prod.snd), es.forM c.check with
    | some (a, b), _ => .error (.overlap a b)
    | none, .error error => .error error
    | none, .ok () =>
      let (lines, markers) := assemble (negatedLines c es) sequence 0 0 (ordered es)
      .ok { content := Assembler.fileOf lines, sequence, markers } := by
  rw [build]
  cases overlap? ((ordered es).map Prod.snd) with
  | some pair => rfl
  | none => cases es.forM c.check <;> rfl

theorem buildOrdered {c : Course} {es : List Exercise} (fits : ∀ e ∈ es, e.FitsIn c.lines.length)
    (apart : overlap? ((ordered es).map Prod.snd) = none) (nonempty : es ≠ []) :
    Ordered (negatedLines c es).length 0 (ordered es) := by
  have member {p : Nat × Exercise} (among : p ∈ ordered es) : p.2.FitsIn c.lines.length :=
    fits p.2 (List.mem_of_getElem? (orderedMem.mp among))
  obtain ⟨e, among⟩ := List.exists_mem_of_ne_nil es nonempty
  rw [negatedLinesLength]
  refine orderedChain (fun p => member) (overlapNone.mp apart) (fun p first => ?_) ?_
  · exact (member (List.mem_of_mem_head? first)).1
  · have := fits e among
    obtain ⟨_, _, _⟩ := this
    omega

theorem buildOk {c : Course} {es : List Exercise} {sequence : Nat} :
    (∃ f, build c es sequence = .ok f) ↔
      (∀ e ∈ es, e.FitsIn c.lines.length) ∧ es.Pairwise Exercise.Apart := by
  rw [buildEq, ← checksPass]
  constructor
  · rintro ⟨f, built⟩
    split at built <;> try contradiction
    rename_i apart checked
    exact ⟨checked, (overlapApart (checksPass.mp checked)).mp apart⟩
  · rintro ⟨checked, apart⟩
    rw [(overlapApart (checksPass.mp checked)).mpr apart, checked]
    exact ⟨_, rfl⟩

theorem builtWithin (c : Course) (es : List Exercise) (sequence : Nat) :
    buildWithin? c es sequence = some (build c es sequence) := by
  rw [buildWithin?, buildEq]
  split
  · rfl
  · rfl
  · rename_i apart checked
    rcases eq_or_ne es [] with rfl | nonempty
    · have sorted : ordered [] = [] := List.mergeSort_nil
      rw [sorted, assembleWithin?, sliceInside (Nat.zero_le _) (Nat.le_refl _), List.take_length]
      rfl
    · rw [assembledWithin (buildOrdered (checksPass.mp checked) apart nonempty)]
      rfl

/-! ### Rows -/

def row? (f : BatchFile) : Nat → Option String
  | 0 => none
  | n + 1 => (Text.rows f.content)[n]?

structure Mapped (f : BatchFile) (source : List String) (es : List Exercise) (sequence : Nat) :
    Prop where
  placed : ∀ i e, es[i]? = some e → ∃ line, f.linesOf? i = some (line, line + 1) ∧
    f.row? line = some ("  hypo_analysis #" ++ toString sequence ++ "." ++ toString i ++ ",") ∧
    f.row? (line + 1) = some ("  targets_analysis #" ++ toString sequence ++ "." ++ toString i) ∧
    f.exerciseAt? line = some (i, .context) ∧ f.exerciseAt? (line + 1) = some (i, .targets) ∧
    f.row? (line - 1) = source[e.beginLine - 1]? ∧ f.row? (line + 2) = source[e.endLine - 1]?
  only : ∀ line i part, f.exerciseAt? line = some (i, part) → i < es.length ∧
    ∃ first, f.linesOf? i = some (first, first + 1) ∧ line = first + part.offset
  others : (((Text.rows f.content).zipIdx 1).filter fun row =>
      (f.exerciseAt? row.2).isNone).map Prod.fst =
    ((source.zipIdx 1).filter fun line => !es.any (·.covers line.2)).map Prod.fst

theorem markedLinesEq (sequence i : Nat) : markedLines sequence i =
    ["  hypo_analysis #" ++ toString sequence ++ "." ++ toString i ++ ",",
      "  targets_analysis #" ++ toString sequence ++ "." ++ toString i] := by
  have context : "  " ++ (Vocabulary.contextAnalysis ++ " #") = "  hypo_analysis #" := by
    decide +kernel
  have targets : "  " ++ (Vocabulary.targetAnalysis ++ " #") = "  targets_analysis #" := by
    decide +kernel
  simp only [markedLines, Assembler.indented, ← context, ← targets, String.append_assoc]

theorem markedFeedless (sequence i : Nat) : Feedless (markedLines sequence i) := by
  have numeral (n : Nat) : '\n' ∉ Nat.toDigits 10 n :=
    Text.numeralCharacters n ▸ Text.numeralFeedless n
  rw [markedLinesEq]
  simp [Feedless, numeral]

theorem sheetFeedless {source : List String} (whole : Feedless source) (sequence next : Nat)
    (order : List (Nat × Exercise)) :
    Feedless ((sheet source sequence next order).map Row.text) := by
  induction order generalizing next with
  | nil =>
    rw [sheet, plainTexts]
    exact fun line among => whole line (List.mem_of_mem_drop among)
  | cons p order ih =>
    simp only [sheet, List.map_append, plainTexts, markedTexts]
    refine Feedless.append (fun line among => ?_) ((markedFeedless _ _).append (ih _))
    exact whole line (List.mem_of_mem_take (List.mem_of_mem_drop among))

theorem builtSheet {c : Course} {es : List Exercise} {sequence : Nat} {f : BatchFile}
    (built : build c es sequence = .ok f) (nonempty : es ≠ []) :
    Ordered (negatedLines c es).length 0 (ordered es) ∧
      f.markers = (assemble (negatedLines c es) sequence 0 0 (ordered es)).2 ∧
      Text.rows f.content =
        (sheet (negatedLines c es) sequence 0 (ordered es)).map Row.text := by
  rw [buildEq] at built
  split at built <;> try contradiction
  rename_i apart checked
  have placed := buildOrdered (checksPass.mp checked) apart nonempty
  cases built
  refine ⟨placed, rfl, ?_⟩
  have lines : (sheet (negatedLines c es) sequence 0 (ordered es)).map Row.text ≠ [] := by
    intro empty
    have head := @sheetHead _ sequence _ _ placed
    rw [List.map_eq_nil_iff.mp empty, List.getElem?_eq_getElem placed.inside] at head
    contradiction
  have rows := Text.rowsJoined lines
  rw [Text.flatMapFeedless (sheetFeedless (negatedLinesFeedless c es) _ _ _)] at rows
  rwa [sheetTexts, Assembler.fileOf]

/-! ### The line map -/

theorem markerFound {markers : List Marker} (distinct : (markers.map Marker.exercise).Nodup)
    {m : Marker} (among : m ∈ markers) :
    markers.find? (·.exercise == m.exercise) = some m := by
  induction markers with
  | nil => simp at among
  | cons n markers ih =>
    obtain ⟨fresh, distinct⟩ := List.nodup_cons.mp distinct
    rcases List.mem_cons.mp among with rfl | later
    · simp
    · have other : n.exercise ≠ m.exercise := fun same =>
        fresh (same ▸ List.mem_map_of_mem later)
      rw [List.find?_cons_of_neg (by simpa using other)]
      exact ih distinct later

theorem askedMarker {markers : List Marker} {line i : Nat} {part : Analysis}
    (asked : askedOn markers line = some (i, part)) :
    ∃ m ∈ markers, m.exercise = i ∧ line = m.contextLine + part.offset := by
  obtain ⟨m, among, found⟩ := List.exists_of_findSome?_eq_some asked
  refine ⟨m, among, ?_⟩
  split at found
  · cases found
    exact ⟨rfl, ‹_›⟩
  · split at found
    · cases found
      exact ⟨rfl, ‹_›⟩
    · contradiction

theorem filterNumbered {rows : List Row} {asked : Nat → Option (Nat × Analysis)} {start : Nat}
    (same : ∀ k, asked (start + k) = rows[k]?.bind Row.asks) :
    (((rows.map Row.text).zipIdx start).filter fun row => (asked row.2).isNone).map Prod.fst =
      (rows.filter (·.asks.isNone)).map Row.text := by
  induction rows generalizing start with
  | nil => rfl
  | cons row rows ih =>
    have here : asked start = row.asks := same 0
    have later := @ih (start + 1) fun k => by
      rw [Nat.add_right_comm]
      exact same (k + 1)
    rw [List.map_cons, List.zipIdx_cons, List.filter_cons, List.filter_cons, here]
    split
    · rw [List.map_cons, List.map_cons, later]
    · exact later

theorem rowInside {f : BatchFile} {before after : List Row} {n : Nat} (k : Nat)
    (content : Text.rows f.content = (before ++ after).map Row.text)
    (place : n = before.length + k + 1) : f.row? n = after[k]?.map Row.text := by
  rw [place, row?, content, List.getElem?_map,
    List.getElem?_append_right (Nat.le_add_right _ _), Nat.add_sub_cancel_left]

theorem plainText (line? : Option String) : (line?.map plainRow).map Row.text = line? := by
  cases line? <;> rfl

theorem lastRow {f : BatchFile} {before after : List Row}
    (content : Text.rows f.content = (before ++ after).map Row.text) :
    before.getLast?.map Row.text = f.row? before.length := by
  cases before using List.reverseRecOn with
  | nil => rfl
  | append_singleton before row =>
    rw [List.append_assoc] at content
    rw [List.getLast?_append, List.length_append, List.length_singleton,
      rowInside 0 content rfl]
    rfl

theorem builtMapped {c : Course} {es : List Exercise} {sequence : Nat} {f : BatchFile}
    (built : build c es sequence = .ok f) (nonempty : es ≠ []) :
    f.Mapped (negatedLines c es) es sequence := by
  obtain ⟨placed, markers, content⟩ := builtSheet built nonempty
  generalize negatedLines c es = source at *
  have exercises : f.markers.map Marker.exercise = (ordered es).map Prod.fst := by
    rw [markers, sheetExercises]
  have distinct : (f.markers.map Marker.exercise).Nodup := exercises ▸ orderedNumbers es
  have asks (k : Nat) : f.exerciseAt? (k + 1) =
      (sheet source sequence 0 (ordered es))[k]?.bind Row.asks := by
    rw [exerciseAsked, markers]
    simpa only [Nat.zero_add] using askedRow source sequence 0 0 k (ordered es)
  have numbered {m : Marker} (among : m ∈ f.markers) :
      f.linesOf? m.exercise = .some (m.contextLine, m.contextLine + 1) := by
    rw [linesOf?, markerFound distinct among]
    rfl
  refine ⟨?placed, ?only, ?others⟩
  case placed =>
    intro i e found
    obtain ⟨before, after, split, opens, closes, marked⟩ :=
      exercisePlaced sequence 0 placed (orderedMem.mpr found)
    have row (k : Nat) : f.row? (before.length + k + 1) =
        (markedRows sequence i ++ after)[k]?.map Row.text :=
      rowInside k (by rw [content, split]) rfl
    have asked (k : Nat) : f.exerciseAt? (before.length + k + 1) =
        (markedRows sequence i ++ after)[k]?.bind Row.asks := by
      rw [asks, split, List.getElem?_append_right (Nat.le_add_right _ _), Nat.add_sub_cancel_left]
    have marks (k : Nat) (short : k < 2) : f.row? (before.length + k + 1) =
        (markedLines sequence i)[k]? := by
      rw [row, List.getElem?_append_left short, ← List.getElem?_map, markedTexts]
    rw [← markers, Nat.zero_add] at marked
    refine ⟨before.length + 1, numbered marked, ?_, ?_, asked 0, asked 1, ?_, ?_⟩
    · rw [← Nat.add_zero before.length, marks 0 (by decide), markedLinesEq]
      rfl
    · rw [marks 1 (by decide), markedLinesEq]
      rfl
    · rw [Nat.add_sub_cancel, ← lastRow (by rw [content, split]), opens, plainText]
    · have next : (markedRows sequence i ++ after)[2]? = after.head? := by cases after <;> rfl
      rw [row 2, next, closes, plainText]
  case only =>
    intro line i part asked
    obtain ⟨m, among, rfl, place⟩ := askedMarker asked
    have inside : m.exercise ∈ (ordered es).map Prod.fst := exercises ▸ List.mem_map_of_mem among
    obtain ⟨⟨i, e⟩, ordered, same⟩ := List.mem_map.mp inside
    rw [← same]
    refine ⟨(List.getElem?_eq_some_iff.mp (orderedMem.mp ordered)).1, m.contextLine, ?_, place⟩
    rw [same]
    exact numbered among
  case others =>
    have covered (line : Nat) : (ordered es).any (·.2.covers line) = es.any (·.covers line) := by
      have same := (orderedExercises es).any_eq (f := (·.covers line))
      rwa [List.any_map] at same
    rw [content, filterNumbered (fun k => by rw [Nat.add_comm]; exact asks k), silentRows placed,
      List.drop_zero]
    simp only [covered]

/-- A file is built exactly for exercises that fit into the source and lie apart, no cut of the
source goes outside its lines, and the line map of the file is one to one between the exercises with their
two analyses and the marked rows, whatever the order of the exercises. -/
theorem batchLinesMapped (c : Course) (es : List Exercise) (sequence : Nat) :
    buildWithin? c es sequence = some (build c es sequence) ∧
      ((∃ f, build c es sequence = .ok f) ↔
        (∀ e ∈ es, e.FitsIn c.lines.length) ∧ es.Pairwise Exercise.Apart) ∧
      ∀ f, build c es sequence = .ok f → es ≠ [] → f.Mapped (negatedLines c es) es sequence :=
  ⟨builtWithin c es sequence, buildOk, fun _ built nonempty => builtMapped built nonempty⟩

def twoProofs : Course :=
  { source := "lemma a : p :=\nbegin\n  x,\n  y\nend\nlemma b : q :=\nbegin\nend\n" }

def twoExercises : List Exercise :=
  [{ name := "b", beginLine := 7, endLine := 8 },
    { name := "a", beginLine := 2, endLine := 5, negate := true, coreStatement := some "p" }]

theorem batchLinesMappedBackwards : twoExercises ≠ [] ∧
    ∃ f, build twoProofs twoExercises 3 = .ok f ∧
      f.Mapped (negatedLines twoProofs twoExercises) twoExercises 3 := by
  obtain ⟨-, ok, mapped⟩ := batchLinesMapped twoProofs twoExercises 3
  obtain ⟨f, built⟩ := ok.mpr (by decide +kernel)
  exact ⟨by decide, f, built, mapped f built (by decide)⟩

end BatchFile

end ProofTutor
