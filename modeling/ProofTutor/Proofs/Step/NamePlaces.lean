import Mathlib.Data.List.DropRight
import ProofTutor.Proofs.Step.Answers
import ProofTutor.Proofs.Text.Rows

/-! Where a code calls hypotheses, read back from the words of its tactics. The variable of a universal
target, the object of an existential property and the copy that an equation rewrites are introduced too,
and are no hypotheses; what the user enters as code is not read. -/
namespace ProofTutor

namespace Text

def pieces (s : String) : List String :=
  (splitAt (· == ' ') s.toList).map String.ofList

theorem piecesWhole {s : String} (whole : ' ' ∉ s.toList) : pieces s = [s] := by
  have plain : ∀ c ∈ s.toList, (c == ' ') = false := by
    intro c mem
    exact beq_eq_false_iff_ne.mpr fun blank => whole (blank ▸ mem)
  rw [pieces, splitAtOn, List.splitOnP_eq_singleton plain, List.map_singleton, String.ofList_toList]

theorem piecesParted (s t : String) : pieces (s ++ " " ++ t) = pieces s ++ pieces t := by
  have text : (s ++ " " ++ t).toList = s.toList ++ ' ' :: t.toList := by simp
  rw [pieces, splitAtOn, text, List.splitOnP_append_cons _ _ rfl, List.map_append, ← splitAtOn,
    ← splitAtOn]
  rfl

theorem splitAtParted {isMark : Char → Bool} {cs first second : List Char}
    {rest : List (List Char)} (split : splitAt isMark cs = first :: second :: rest) :
    ∃ d tail, isMark d ∧ cs = first ++ d :: tail := by
  induction cs generalizing first with
  | nil => cases split
  | cons c cs ih =>
    by_cases mark : isMark c
    · rw [splitAt, if_pos mark] at split
      obtain ⟨rfl, _⟩ := List.cons_eq_cons.mp split
      exact ⟨c,cs,mark,rfl⟩
    · rw [Bool.not_eq_true] at mark
      obtain ⟨piece, pieces, before, after⟩ := splitAtBegun isMark mark cs
      obtain ⟨rfl, rfl⟩ := List.cons_eq_cons.mp (after.symm.trans split)
      obtain ⟨d, tail, end', rfl⟩ := ih before
      exact ⟨d,tail,end',rfl⟩

theorem piecesBegun {s first second : String} {rest : List String}
    (parted : pieces s = first :: second :: rest) : begins s (first ++ " ") := by
  obtain ⟨piece, more, split, rfl, after⟩ := List.map_eq_cons_iff.mp parted
  obtain ⟨piece', rest, rfl, _, _⟩ := List.map_eq_cons_iff.mp after
  obtain ⟨d, tail, mark, text⟩ := splitAtParted split
  obtain rfl : d = ' ' := by simpa using mark
  refine headSome.mpr ⟨tail,?_⟩
  simp [text]

end Text

namespace Instruction

/-! ### Names of hypotheses -/

def verb : Instruction → String
  | .intro _ => "intro"
  | .byContradiction _ => "by_contradiction"
  | .byCases _ _ => "by_cases"
  | .cases _ _ _ => "cases"
  | .assert _ _ => "have"
  | .other _ => ""

def among (button? : Option Button) (verb : String) (names : List String) : List String :=
  if button? = some .code ∨
    (button?, verb) ∈ [(some .universal, "intro"), (some .equal, "have")] then []
  else if (button?, verb) = (some .existential, "cases") then names.tail
  else names

def hypotheses (button? : Option Button) (c : Instruction) : List String :=
  among button? c.verb c.names

def introduced (verb : String) (words : List String) : List String :=
  if verb = "cases" then words.rtake 2
  else if verb ++ " " ∈ introducers then words.take 1
  else []

def read (button? : Option Button) (text : String) : List String :=
  match Text.pieces text with
  | [] => []
  | verb :: words => among button? verb (introduced verb words)

variable {button? : Option Button}

theorem amongNone (button? : Option Button) (verb : String) : among button? verb [] = [] := by
  unfold among
  split
  · rfl
  · split <;> rfl

theorem readPlain {text : String} (plain : Plain text) : read button? text = [] := by
  rw [read]
  split
  · rfl
  · rename_i verb words parted
    cases words with
    | nil =>
      have silent : introduced verb [] = [] := by
        unfold introduced
        split
        · rfl
        · split <;> rfl
      rw [silent, amongNone]
    | cons word words =>
      have other : verb ++ " " ∉ introducers := by
        intro introduces
        cases (plain.silent _ introduces).symm.trans (Text.piecesBegun parted)
      have cases' : verb ≠ "cases" := by
        rintro rfl
        exact other (by decide)
      rw [introduced, if_neg cases', if_neg other, amongNone]

theorem readOne {verb name text : String} {more : List String}
    (parted : Text.pieces text = verb :: (Text.pieces name ++ more))
    (introduces : verb ++ " " ∈ introducers) (other : verb ≠ "cases")
    (whole : ∀ n ∈ among button? verb [name], ' ' ∉ n.toList) :
    read button? text = among button? verb [name] := by
  have words : introduced verb (Text.pieces name ++ more) = (Text.pieces name ++ more).take 1 := by
    rw [introduced, if_neg other, if_pos introduces]
  rw [read, parted]
  show among button? verb (introduced verb (Text.pieces name ++ more)) = _
  rw [words]
  unfold among at whole ⊢
  split_ifs at whole ⊢ with silent existential
  · rfl
  · exact absurd (congrArg Prod.snd existential) other
  · rw [Text.piecesWhole (whole name (List.mem_singleton_self _))]
    rfl

theorem readCases {h first second : String}
    (whole : ∀ n ∈ among button? "cases" [first, second], ' ' ∉ n.toList) :
    read button? (Instruction.cases h first second).text =
      among button? "cases" [first, second] := by
  have parted : Text.pieces (Instruction.cases h first second).text =
      "cases" :: (Text.pieces (h ++ " with") ++ (Text.pieces first ++ Text.pieces second)) := by
    have text : (Instruction.cases h first second).text =
        "cases" ++ " " ++ (h ++ " with" ++ " " ++ (first ++ " " ++ second)) := by
      show "cases" ++ " " ++ h ++ (" with" ++ " ") ++ first ++ " " ++ second = _
      simp only [String.append_assoc]
    rw [text, Text.piecesParted, Text.piecesParted, Text.piecesParted]
    rfl
  have last (words : List String) (x y : String) : (words ++ ([x] ++ [y])).rtake 2 = [x, y] := by
    simp [List.rtake]
  rw [read, parted]
  show among button? "cases" (List.rtake _ 2) = _
  unfold among at whole ⊢
  split_ifs at whole ⊢ with silent existential
  · rfl
  · obtain ⟨pieces, piece, same⟩ := List.eq_nil_or_concat' (Text.pieces first) |>.resolve_left
      fun empty => by simp [Text.pieces, Text.splitAtOn] at empty
    rw [Text.piecesWhole (whole second (List.mem_singleton_self _)), same, List.append_assoc pieces,
      ← List.append_assoc, last]
    rfl
  · rw [Text.piecesWhole (whole first (by simp)), Text.piecesWhole (whole second (by simp)), last]

theorem amongCode (verb : String) (names : List String) : among (some .code) verb names = [] :=
  if_pos (.inl rfl)

theorem readText {c : Instruction}
    (plain : ∀ text, c = .other text → Plain text ∨ button? = some .code)
    (whole : ∀ name ∈ c.hypotheses button?, ' ' ∉ name.toList) :
    read button? c.text = c.hypotheses button? := by
  have alone (verb name : String) (single : Text.pieces verb = [verb]) :
      Text.pieces (verb ++ " " ++ name) = verb :: (Text.pieces name ++ []) := by
    rw [Text.piecesParted, single, List.append_nil]
    rfl
  have followed (verb name rest : String) (single : Text.pieces verb = [verb]) :
      Text.pieces (verb ++ " " ++ (name ++ " " ++ rest)) =
        verb :: (Text.pieces name ++ Text.pieces rest) := by
    rw [Text.piecesParted, single, Text.piecesParted]
    rfl
  cases c with
  | intro name =>
    show _ = among button? "intro" [name]
    exact readOne (alone "intro" name rfl) (by decide) (by decide) whole
  | byContradiction name =>
    show _ = among button? "by_contradiction" [name]
    exact readOne (alone "by_contradiction" name rfl) (by decide) (by decide) whole
  | byCases name property =>
    have same : (byCases name property).text =
        "by_cases" ++ " " ++ (name ++ " " ++ (": (" ++ property ++ ")")) := by
      show "by_cases" ++ " " ++ name ++ (" " ++ ": (") ++ property ++ ")" = _
      simp only [String.append_assoc]
    have parted := followed "by_cases" name (": (" ++ property ++ ")") rfl
    rw [← same] at parted
    show _ = among button? "by_cases" [name]
    exact readOne parted (by decide) (by decide) whole
  | assert name value =>
    have same : (assert name value).text = "have" ++ " " ++ (name ++ " " ++ (":= " ++ value)) := by
      show "have" ++ " " ++ name ++ (" " ++ ":= ") ++ value = _
      simp only [String.append_assoc]
    have parted := followed "have" name (":= " ++ value) rfl
    rw [← same] at parted
    show _ = among button? "have" [name]
    exact readOne parted (by decide) (by decide) whole
  | cases h first second => exact readCases whole
  | other text =>
    refine Eq.trans ?_ (amongNone _ _).symm
    rcases plain text rfl with plain | rfl
    · exact readPlain plain
    · rw [read]
      split
      · rfl
      · exact amongCode _ _

end Instruction

namespace Tactic

/-- The names of hypotheses that a code introduces for the button. Alternatives of one choice may
introduce the same ones, and so do the two branches of a disjunction. -/
def hypotheses (button? : Option Button) (t : Tactic) : List String :=
  (t.atoms.flatMap (Instruction.read button?)).dedup

theorem hypothesesSpelled {button? : Option Button} {t : Tactic} {instructions : List Instruction}
    (texts : t.atoms = instructions.map Instruction.text)
    (plain : ∀ text, .other text ∈ instructions → Instruction.Plain text ∨ button? = some .code)
    (whole : ∀ name ∈ instructions.flatMap (Instruction.hypotheses button?), ' ' ∉ name.toList) :
    t.hypotheses button? = (instructions.flatMap (Instruction.hypotheses button?)).dedup := by
  rw [hypotheses, texts, List.flatMap_map]
  refine congrArg List.dedup ?_
  refine List.flatMap_congr fun c mem => ?_
  refine Instruction.readText (fun text same => plain text (same ▸ mem)) fun name own => ?_
  exact whole name (List.mem_flatMap.mpr ⟨c,mem,own⟩)

end Tactic
end ProofTutor
