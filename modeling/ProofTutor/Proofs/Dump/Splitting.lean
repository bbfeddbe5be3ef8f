import ProofTutor.Dump.Goals
import ProofTutor.Dump.Reader
import ProofTutor.Proofs.Text.Basic

/-!
The parts between separators: joined again they are the text, and parts without separators that close
all their lists of children are found again when they are joined. The targets of a dump are spent if
nothing is written after the header, or the notice that there are no goals, or only blanks between
separators; targets of which none can be read are never taken for these.
-/

namespace ProofTutor.Record

def separator : List Char := ['¿','¿','¿']

theorem extendFirstJoin (c : Char) {parts : List (List Char)} (nonempty : parts ≠ []) :
    Text.joinWith separator (extendFirst c parts) = c :: Text.joinWith separator parts := by
  cases parts with
  | nil => exact absurd rfl nonempty
  | cons part parts =>
    cases parts with
    | nil => rfl
    | cons next parts => rfl

theorem splitFromSome (skip depth : Nat) (cs : List Char) : splitFrom skip depth cs ≠ [] := by
  induction cs generalizing skip depth with
  | nil => simp [splitFrom]
  | cons c cs ih =>
    cases skip with
    | succ skip => exact ih skip depth
    | zero =>
      rw [splitFrom]
      split
      · simp
      · cases splitFrom 0 (depthAfter depth (c :: cs)) cs <;> simp [extendFirst]

theorem startsSeparatorIff {cs : List Char} :
    startsSeparator cs = true ↔ ∃ rest, cs = separator ++ rest := by
  rw [startsSeparator.eq_def]
  split
  · rename_i rest
    exact ⟨fun _ => ⟨rest,rfl⟩,fun _ => rfl⟩
  · rename_i other
    refine ⟨fun same => absurd same Bool.false_ne_true,?_⟩
    rintro ⟨rest, rfl⟩
    exact absurd rfl (other rest)

theorem splitFromJoin (skip depth : Nat) (cs : List Char) :
    Text.joinWith separator (splitFrom skip depth cs) = cs.drop skip := by
  induction cs generalizing skip depth with
  | nil => simp [splitFrom, Text.joinWith]
  | cons c cs ih =>
    cases skip with
    | succ skip => exact ih skip depth
    | zero =>
      rw [splitFrom]
      split
      · rename_i found
        obtain ⟨rest, same⟩ := startsSeparatorIff.mp found.2
        have joined : Text.joinWith separator ([] :: splitFrom 2 0 cs) =
            separator ++ Text.joinWith separator (splitFrom 2 0 cs) := by
          cases parts : splitFrom 2 0 cs with
          | nil => exact absurd parts (splitFromSome 2 0 cs)
          | cons part parts => rfl
        rw [joined, ih 2 0, same]
        obtain ⟨rfl, rfl⟩ : c = '¿' ∧ cs = '¿' :: '¿' :: rest := by simpa [separator] using same
        rfl
      · rw [extendFirstJoin c (splitFromSome 0 _ cs), ih 0]
        rfl

theorem splitJoin (cs : List Char) : Text.joinWith separator (split cs) = cs :=
  splitFromJoin 0 0 cs

/-! ### Parts -/

def Marked : List Char → Prop
  | [] => True
  | c :: cs => (c = '¿' → ∃ next ∈ cs.head?, next ≠ '¿') ∧ Marked cs

def depthThrough (depth : Nat) : List Char → Nat
  | [] => depth
  | c :: cs => depthThrough (depthAfter depth (c :: cs)) cs

theorem Marked.append {first second : List Char} (one : Marked first) (two : Marked second) :
    Marked (first ++ second) := by
  induction first with
  | nil => exact two
  | cons c cs ih =>
    refine ⟨fun mark => ?_,ih one.2⟩
    obtain ⟨next, here, other⟩ := one.1 mark
    cases cs with
    | nil => cases here
    | cons d ds => exact ⟨next,here,other⟩

theorem unmarked {cs : List Char} (free : '¿' ∉ cs) (depth : Nat) :
    Marked cs ∧ depthThrough depth cs = depth := by
  induction cs with
  | nil => exact ⟨trivial,rfl⟩
  | cons c cs ih =>
    rw [List.mem_cons, not_or] at free
    obtain ⟨marked, same⟩ := ih free.2
    have kept : depthAfter depth (c :: cs) = depth := by
      unfold depthAfter
      split
      · simp_all
      · simp_all
      · rfl
    exact ⟨⟨fun mark => absurd mark.symm free.1,marked⟩,by rw [depthThrough, kept, same]⟩

theorem depthAfterMarked {c : Char} {cs : List Char} (marked : Marked (c :: cs)) (depth : Nat)
    (rest : List Char) : depthAfter depth (c :: (cs ++ rest)) = depthAfter depth (c :: cs) := by
  cases cs with
  | nil =>
    by_cases mark : c = '¿'
    · obtain ⟨next, here, _⟩ := marked.1 mark
      cases here
    · rw [List.nil_append]
      unfold depthAfter
      split <;> split <;> simp_all
  | cons d ds =>
    unfold depthAfter
    split <;> split <;> simp_all

theorem depthThroughAppend {cs : List Char} (marked : Marked cs) (depth : Nat) (rest : List Char) :
    depthThrough depth (cs ++ rest) = depthThrough (depthThrough depth cs) rest := by
  induction cs generalizing depth with
  | nil => rfl
  | cons c cs ih =>
    rw [List.cons_append, depthThrough, depthThrough, depthAfterMarked marked, ih marked.2]

theorem markedNoSeparator {c : Char} {cs : List Char} (marked : Marked (c :: cs)) (rest : List Char) :
    startsSeparator (c :: (cs ++ rest)) = false := by
  refine Bool.eq_false_iff.mpr fun found => ?_
  obtain ⟨tail, same⟩ := startsSeparatorIff.mp found
  simp only [separator, List.cons_append, List.nil_append, List.cons.injEq] at same
  obtain ⟨next, here, other⟩ := marked.1 same.1
  cases cs with
  | nil => cases here
  | cons d ds =>
    obtain rfl : d = next := by simpa using here
    exact other (by simpa using congrArg List.head? same.2)

theorem splitThrough {part : List Char} (marked : Marked part) (depth : Nat) (rest : List Char) :
    splitFrom 0 depth (part ++ rest) =
      part.foldr extendFirst (splitFrom 0 (depthThrough depth part) rest) := by
  induction part generalizing depth with
  | nil => rfl
  | cons c cs ih =>
    rw [List.cons_append, splitFrom, if_neg (by simp [markedNoSeparator marked rest]),
      depthAfterMarked marked, ih marked.2]
    rfl

theorem extendAll (part first : List Char) (parts : List (List Char)) :
    part.foldr extendFirst (first :: parts) = (part ++ first) :: parts := by
  induction part with
  | nil => rfl
  | cons c cs ih => rw [List.foldr_cons, ih, extendFirst, List.cons_append]

structure Part (cs : List Char) : Prop where
  marked : Marked cs
  closed : depthThrough 0 cs = 0

theorem splitPart {part : List Char} (whole : Part part) (rest : List Char) :
    split (part ++ (separator ++ rest)) = part :: split rest := by
  have next : splitFrom 0 0 (separator ++ rest) = [] :: split rest := rfl
  rw [split, splitThrough whole.marked, whole.closed, next, extendAll, List.append_nil]

theorem splitLast {part : List Char} (whole : Part part) : split part = [part] := by
  have split' := splitThrough whole.marked 0 []
  rw [whole.closed, splitFrom, extendAll, List.append_nil] at split'
  exact split'

theorem joinSplit {parts : List (List Char)} (nonempty : parts ≠ []) (each : ∀ part ∈ parts, Part part) :
    split (Text.joinWith separator parts) = parts := by
  induction parts with
  | nil => exact absurd rfl nonempty
  | cons part parts ih =>
    obtain ⟨whole, others⟩ := List.forall_mem_cons.mp each
    cases parts with
    | nil => exact splitLast whole
    | cons next parts =>
      rw [Text.joinWith, List.append_assoc, splitPart whole, ih (by simp) others]
      simp

end ProofTutor.Record

/-! ### No goals left -/

namespace ProofTutor.Dump

def Spent (body : List Char) : Prop :=
  (∀ c ∈ body, Text.isBlank c) ∨ noGoals <+: body ∨
    ∃ parts, (∀ part ∈ parts, ∀ c ∈ part, Text.isBlank c) ∧
      body = Text.joinWith Record.separator parts

theorem blankParts {parts : List (List Char)} (blank : ∀ part ∈ parts, ∀ c ∈ part, Text.isBlank c) :
    ∀ part ∈ Record.split (Text.joinWith Record.separator parts), ∀ c ∈ part, Text.isBlank c := by
  rcases eq_or_ne parts [] with rfl | nonempty
  · simp [Text.joinWith, Record.split, Record.splitFrom]
  · have each : ∀ part ∈ parts, Record.Part part := by
      intro part mem
      have free : '¿' ∉ part := fun inside => absurd (blank part mem _ inside) (by decide)
      obtain ⟨marked, closed⟩ := Record.unmarked free 0
      exact ⟨marked,closed⟩
    rwa [Record.joinSplit nonempty each]

theorem keptParts {parts : List (List Char)} :
    (parts.map Text.strip).filter (· ≠ []) = [] ↔ ∀ part ∈ parts, ∀ c ∈ part, Text.isBlank c := by
  simp [List.filter_eq_nil_iff, Text.stripNil]

theorem targetTextsNil {dump : List Char} :
    targetTexts dump = [] ↔ Spent (Text.strip (dropHeader targetsHeader dump)) := by
  rw [targetTexts]
  generalize Text.strip (dropHeader targetsHeader dump) = body
  split
  · rename_i spent
    refine ⟨fun _ => ?_,fun _ => rfl⟩
    rcases Bool.or_eq_true_iff.mp spent with empty | notice
    · exact .inl (by simp [List.isEmpty_iff.mp empty])
    · exact .inr (.inl (Text.headSome.mp notice))
  · rename_i written
    rw [keptParts]
    constructor
    · intro blank
      exact .inr (.inr ⟨Record.split body,blank,(Record.splitJoin body).symm⟩)
    · rintro (blank | notice | ⟨parts, blank, rfl⟩)
      · have whole : ∀ part ∈ [body], ∀ c ∈ part, Text.isBlank c := by simpa using blank
        exact blankParts whole
      · exact absurd (Bool.or_eq_true_iff.mpr (.inr (Text.headSome.mpr notice))) written
      · exact blankParts blank

/-! ### Reading -/

theorem decodedState {d : Decoded} {s : ProofState} (complete : d.state? = .ok s) :
    s = d.state := by
  rw [Decoded.state?] at complete
  split at complete
  · cases complete
  · exact (Except.ok.inj complete).symm

theorem readGoalsMalformed {blocks : List (List (List Char))} {texts : List (List Char)}
    (malformed : ∀ text ∈ texts, Record.read? text = none) (index : Nat) (d : Decoder) :
    readGoals blocks index texts d =
      ([],{ d with warnings := d.warnings ++ texts.map fun text => .malformedTarget (.ofList text) }) := by
  induction texts generalizing index d with
  | nil => simp [readGoals]
  | cons text texts ih =>
    obtain ⟨here, later⟩ := List.forall_mem_cons.mp malformed
    rw [readGoals, here]
    simp [ih later, Decoder.warn]

theorem readGoalsSome {blocks : List (List (List Char))} {text : List Char}
    {texts : List (List Char)} (mem : text ∈ texts) (read : Record.read? text ≠ none) (index : Nat)
    (d : Decoder) : (readGoals blocks index texts d).1 ≠ [] := by
  induction texts generalizing index d with
  | nil => cases mem
  | cons first texts ih =>
    rw [readGoals]
    split
    · rename_i malformed
      rcases List.mem_cons.mp mem with rfl | later
      · exact absurd malformed read
      · exact ih later _ _
    · simp

theorem malformedRefused (naming : Naming) (context : String) {targets : String}
    (nonempty : targetTexts targets.toList ≠ [])
    (malformed : ∀ text ∈ targetTexts targets.toList, Record.read? text = none) :
    (decode naming context targets).state? = .error
      ((targetTexts targets.toList).map fun text => .malformedTarget (.ofList text)) := by
  have complete : (ProofState.mk []).isComplete = true := rfl
  rw [Decoded.state?, decode, readGoalsMalformed malformed]
  simp [complete, nonempty]

theorem decodedEmpty {naming : Naming} {context targets : String} :
    (∃ s, (decode naming context targets).state? = .ok s ∧ s.goalCount = 0) ↔
      targetTexts targets.toList = [] := by
  constructor
  · rintro ⟨s, decoded, empty⟩
    by_contra nonempty
    by_cases malformed : ∀ text ∈ targetTexts targets.toList, Record.read? text = none
    · rw [malformedRefused naming context nonempty malformed] at decoded
      cases decoded
    · simp only [not_forall] at malformed
      obtain ⟨text, mem, read⟩ := malformed
      have goals := @readGoalsSome (contextBlocks context.toList) text _ mem read 0 {}
      rw [decodedState decoded] at empty
      exact goals (List.map_eq_nil_iff.mp (List.length_eq_zero_iff.mp empty))
  · intro untargeted
    refine ⟨⟨[]⟩,?_,rfl⟩
    rw [Decoded.state?, decode, untargeted, readGoals]
    rfl

end ProofTutor.Dump
