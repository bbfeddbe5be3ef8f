import Mathlib.Data.List.TakeDrop
import Mathlib.Data.List.TakeWhile
import ProofTutor.Proofs.Term.Written

/-!
Whatever the reader takes of a text spells the tree that it makes of it, so its tags, keys and values are
such as the format can tell apart; and the info record of a node is read back as it was.
-/
namespace ProofTutor

/-! ### Readers -/

namespace Tree

theorem takeTillInside (ends : Char → Bool) (cs : List Char) :
    ∀ c ∈ (takeTill ends cs).1, ends c = false := by
  intro c mem
  rw [takeTill, List.span_eq_takeWhile_dropWhile] at mem
  simpa using List.mem_takeWhile_imp mem

theorem takeTillWhole (ends : Char → Bool) (cs : List Char) :
    cs = (takeTill ends cs).1 ++ (takeTill ends cs).2 := by
  rw [takeTill, List.span_eq_takeWhile_dropWhile, List.takeWhile_append_dropWhile]

theorem takeTill1Whole {ends : Char → Bool} {cs part rest : List Char}
    (taken : takeTill1? ends cs = some (part,rest)) : cs = part ++ rest := by
  have whole := takeTillWhole ends cs
  rw [takeTill1?] at taken
  split at taken
  · cases taken
  · rwa [Option.some.inj taken] at whole

theorem takeTill1Inside {ends : Char → Bool} {cs part rest : List Char}
    (taken : takeTill1? ends cs = some (part,rest)) : part ≠ [] ∧ ∀ c ∈ part, ends c = false := by
  have inside := takeTillInside ends cs
  rw [takeTill1?] at taken
  split at taken
  · cases taken
  · rename_i empty
    rw [Option.some.inj taken] at inside empty
    refine ⟨?_,inside⟩
    rintro rfl
    exact empty rest rfl

theorem cutBefore {cs before after : List Char} (cut : Text.cut? infoClose cs = some (before,after)) :
    ¬ infoClose <:+: before := by
  induction cs generalizing before with
  | nil => cases cut
  | cons c cs ih =>
    rw [Text.cut?] at cut
    split at cut
    · cases cut
      exact fun inside => absurd (List.infix_nil.mp inside) (by simp [infoClose])
    · rename_i apart
      obtain ⟨⟨rest, after'⟩, later, same⟩ := Option.map_eq_some_iff.mp cut
      cases same
      intro inside
      rcases List.infix_cons_iff.mp inside with ⟨tail, start⟩ | inside
      · have whole := Text.cutWhole later
        have opened : c :: cs = infoClose ++ (tail ++ (infoClose ++ after)) := by
          rw [whole, ← List.append_assoc, start]
          simp
        rw [opened, Text.stripHeadSome.mpr rfl] at apart
        cases apart
      · exact ih later inside

theorem readPairLexes {cs rest : List Char} {pair : String × String}
    (read : readPair? cs = some (pair,rest)) : LexicalKey pair.1 ∧
      if isOpenEnded pair.1.toList then ¬ infoClose <:+: pair.2.toList ∧ infoClose <+: rest
      else ∀ c ∈ pair.2.toList, endsValue c = false := by
  simp only [readPair?, Option.bind_eq_bind, Option.bind_eq_some_iff] at read
  obtain ⟨⟨key, more⟩, keyed, afterKey, _, valued⟩ := read
  have lexical : LexicalKey (.ofList key) := by simpa [LexicalKey] using takeTill1Inside keyed
  split at valued
  · rename_i openEnded
    obtain ⟨_, taken, same⟩ := Option.bind_eq_some_iff.mp valued
    obtain ⟨⟨before, after⟩, cut, rfl⟩ := Option.map_eq_some_iff.mp taken
    cases same
    refine ⟨lexical,?_⟩
    rw [String.toList_ofList, String.toList_ofList, if_pos openEnded]
    exact ⟨cutBefore cut,List.prefix_append ..⟩
  · rename_i closed
    cases valued
    refine ⟨lexical,?_⟩
    rw [String.toList_ofList, String.toList_ofList, if_neg closed]
    exact takeTillInside endsValue afterKey

theorem readPairPrinted {cs rest : List Char} {pair : String × String}
    (read : readPair? cs = some (pair,rest)) : cs = printPair pair ++ rest := by
  simp only [readPair?, Option.bind_eq_bind, Option.bind_eq_some_iff] at read
  obtain ⟨⟨key, more⟩, keyed, afterKey, colon, valued⟩ := read
  obtain rfl := takeTill1Whole keyed
  obtain rfl := Text.stripHeadSome.mp colon
  split at valued
  · obtain ⟨_, taken, same⟩ := Option.bind_eq_some_iff.mp valued
    obtain ⟨⟨before, after⟩, cut, rfl⟩ := Option.map_eq_some_iff.mp taken
    cases same
    simp [printPair, Text.cutWhole cut]
  · cases valued
    simp [printPair, ← takeTillWhole endsValue afterKey]

theorem readPairsClosed (fuel : Nat) {cs : List Char} (closed : infoClose <+: cs) :
    (readPairs fuel cs).1 = [] := by
  obtain ⟨rest, rfl⟩ := closed
  cases fuel with
  | zero => rfl
  | succ fuel => rfl

theorem pairLexical {pair : String × String} {pairs : List (String × String)} {rest : List Char}
    (lexes : LexicalKey pair.1 ∧
      if isOpenEnded pair.1.toList then ¬ infoClose <:+: pair.2.toList ∧ infoClose <+: rest
      else ∀ c ∈ pair.2.toList, endsValue c = false) (last : infoClose <+: rest → pairs = [])
    (others : LexicalPairs pairs) : LexicalPairs (pair :: pairs) := by
  obtain ⟨key, valued⟩ := lexes
  refine ⟨key,?_,others⟩
  split
  · rename_i openEnded
    rw [if_pos openEnded] at valued
    exact ⟨last valued.2,valued.1⟩
  · rename_i closed
    rw [if_neg closed] at valued
    exact valued

theorem readPairsLexes (fuel : Nat) (cs : List Char) : LexicalPairs (readPairs fuel cs).1 := by
  induction fuel generalizing cs with
  | zero => exact trivial
  | succ fuel ih =>
    rw [readPairs]
    split
    · exact trivial
    · rename_i pair rest read
      obtain ⟨_, _, read⟩ := Option.bind_eq_some_iff.mp read
      exact pairLexical (readPairLexes read) (readPairsClosed fuel) (ih rest)

theorem readPairsPrinted (fuel : Nat) (cs : List Char) :
    cs = slashed (readPairs fuel cs).1 ++ (readPairs fuel cs).2 := by
  induction fuel generalizing cs with
  | zero => rfl
  | succ fuel ih =>
    rw [readPairs]
    split
    · rfl
    · rename_i pair rest read
      obtain ⟨afterSlash, slash, read⟩ := Option.bind_eq_some_iff.mp read
      rw [Text.stripHeadSome.mp slash, readPairPrinted read]
      have others := ih rest
      simp only [slashed, List.flatMap_cons, List.append_assoc] at others ⊢
      rw [← others]
      rfl

theorem readInfoLexes (cs : List Char) : LexicalPairs (readInfo cs).1 := by
  rw [readInfo]
  cases read : readInfo? cs with
  | none => exact trivial
  | some parts =>
    simp only [readInfo?, Option.bind_eq_bind, Option.bind_eq_some_iff] at read
    obtain ⟨_, _, ⟨pair, rest⟩, first, _, _, same⟩ := read
    cases same
    exact pairLexical (readPairLexes first) (readPairsClosed _) (readPairsLexes _ rest)

theorem readInfoPrinted (cs : List Char) : cs = printInfo (readInfo cs).1 ++ (readInfo cs).2 := by
  rw [readInfo]
  cases read : readInfo? cs with
  | none => rfl
  | some parts =>
    simp only [readInfo?, Option.bind_eq_bind, Option.bind_eq_some_iff] at read
    obtain ⟨afterOpen, opened, ⟨pair, rest⟩, first, afterClose, closed, same⟩ := read
    cases same
    have others := readPairsPrinted rest.length rest
    dsimp only at closed others ⊢
    generalize readPairs rest.length rest = parts at closed others
    rw [Text.stripHeadSome.mp closed] at others
    rw [Text.stripHeadSome.mp opened, readPairPrinted first, others, Option.getD_some, printInfo,
      if_neg (by simp), joinSlashed]
    simp only [List.append_assoc]

/-! ### Spelled texts -/

theorem dropSpacesWhole (cs : List Char) :
    ∃ spaces, Spaces spaces ∧ cs = spaces ++ dropSpaces cs :=
  ⟨cs.takeWhile isSpace,fun _ mem => List.mem_takeWhile_imp mem,
    (List.takeWhile_append_dropWhile).symm⟩

structure ReadersSpell (fuel : Nat) : Prop where
  node : ∀ cs t rest, readWithin? fuel cs = some (t,rest) →
    ∃ text, Spelling t text ∧ cs = text ++ rest
  children : ∀ cs ts rest, readChildren? fuel cs = some (ts,rest) →
    ∃ text, ChildrenSpelling ts text ∧ cs = text ++ rest
  more : ∀ cs, ∃ text, MoreSpelling (readMore fuel cs).1 text ∧ cs = text ++ (readMore fuel cs).2

section Step
variable {fuel : Nat} (spell : ReadersSpell fuel)
include spell

theorem childrenSpelled (cs : List Char) : ∃ text,
    ChildrenSpelling ((readChildren? fuel cs).getD ([],cs)).1 text ∧
      cs = text ++ ((readChildren? fuel cs).getD ([],cs)).2 := by
  cases listed : readChildren? fuel cs with
  | none => exact ⟨[],.nil,rfl⟩
  | some list => exact spell.children _ _ _ listed

theorem nodeSpelled {cs rest : List Char} {t : Tree}
    (read : readWithin? (fuel + 1) cs = some (t,rest)) :
    ∃ text, Spelling t text ∧ cs = text ++ rest := by
  simp only [readWithin?, Option.bind_eq_bind, Option.bind_eq_some_iff] at read
  obtain ⟨⟨tag, afterTag⟩, tagged, same⟩ := read
  obtain ⟨spaces, blank, whole⟩ := dropSpacesWhole cs
  have lexical : LexicalTag (.ofList tag) := by simpa [LexicalTag] using takeTill1Inside tagged
  have pairs := readInfoLexes afterTag
  rw [takeTill1Whole tagged, readInfoPrinted afterTag] at whole
  obtain ⟨text, below, after⟩ := childrenSpelled spell (readInfo afterTag).2
  cases same
  refine ⟨_,.node lexical pairs blank below,?_⟩
  rw [String.toList_ofList, List.append_assoc, List.append_assoc, List.append_assoc, ← after]
  exact whole

theorem listSpelled {cs rest : List Char} {ts : List Tree}
    (read : readChildren? (fuel + 1) cs = some (ts,rest)) :
    ∃ text, ChildrenSpelling ts text ∧ cs = text ++ rest := by
  simp only [readChildren?, Option.bind_eq_bind, Option.bind_eq_some_iff] at read
  obtain ⟨afterOpen, opened, ⟨child, afterChild⟩, first, afterClose, closed, same⟩ := read
  cases same
  obtain ⟨text, spelled, rfl⟩ := spell.node _ _ _ first
  obtain ⟨others, listed, whole⟩ := spell.more afterChild
  obtain ⟨spaces, blank, ends⟩ := dropSpacesWhole (readMore fuel afterChild).2
  rw [Text.stripHeadSome.mp closed] at ends
  refine ⟨_,.cons spelled listed blank,?_⟩
  rw [Text.stripHeadSome.mp opened, whole, ends]
  simp only [List.append_assoc]

theorem moreSpelled (cs : List Char) : ∃ text,
    MoreSpelling (readMore (fuel + 1) cs).1 text ∧ cs = text ++ (readMore (fuel + 1) cs).2 := by
  rw [readMore]
  split
  · exact ⟨[],.nil,rfl⟩
  · rename_i child afterChild read
    obtain ⟨afterMark, marked, read⟩ := Option.bind_eq_some_iff.mp read
    obtain ⟨text, spelled, rfl⟩ := spell.node _ _ _ read
    obtain ⟨others, listed, whole⟩ := spell.more afterChild
    refine ⟨_,.cons spelled listed,?_⟩
    rw [Text.stripHeadSome.mp marked]
    simp only [List.append_assoc]
    rw [← whole]

end Step

-- the three readers give the fuel to each other, so they are taken together
theorem readersSpell (fuel : Nat) : ReadersSpell fuel := by
  induction fuel with
  | zero => exact ⟨by simp [readWithin?],by simp [readChildren?],fun cs => ⟨[],.nil,rfl⟩⟩
  | succ fuel spell =>
    exact
      { node := fun _ _ _ => nodeSpelled spell
        children := fun _ _ _ => listSpelled spell
        more := moreSpelled spell }

theorem readSpelled {cs rest : List Char} {t : Tree} (read : read? cs = some (t,rest)) :
    ∃ text, Spelling t text ∧ cs = text ++ rest :=
  (readersSpell _).node cs t rest read

theorem readLexical {cs rest : List Char} {t : Tree} (read : read? cs = some (t,rest)) :
    Lexical t := by
  obtain ⟨text, spelled, -⟩ := readSpelled read
  exact spellingLexical spelled

end Tree

/-! ### Info records -/

namespace Info

theorem ofPairsKeeps {P : Info → Prop} {pairs : List (String × String)} (start : P {})
    (step : ∀ pair ∈ pairs, ∀ info info', info.set? pair.1 pair.2 = some info' → P info → P info') :
    P (ofPairs pairs) := by
  refine List.foldlRecOn (motive := P) pairs _ start fun info kept pair mem => ?_
  show P ((info.set? pair.1 pair.2).getD info)
  cases set : info.set? pair.1 pair.2 with
  | none => exact kept
  | some info' => exact step pair mem info info' set kept

theorem ofPairsSmall (pairs : List (String × String)) :
    ∀ n ∈ (ofPairs pairs).number, n < Text.word32 := by
  refine ofPairsKeeps (P := fun info => ∀ n ∈ info.number, n < Text.word32) (by simp) ?_
  intro pair _ info info' set small
  unfold set? at set
  split at set
  case h_4 =>
    obtain ⟨n, read, rfl⟩ := Option.map_eq_some_iff.mp set
    rintro m ⟨⟩
    exact Text.readNatSmall read
  case h_7 => cases set
  all_goals
    cases set
    exact small

theorem valuesFree {pairs : List (String × String)} (lexical : Tree.LexicalPairs pairs) :
    ∀ pair ∈ pairs, if Tree.isOpenEnded pair.1.toList then ¬ Tree.infoClose <:+: pair.2.toList
      else ∀ c ∈ pair.2.toList, c ≠ '/' ∧ c ≠ '¿' := by
  induction pairs with
  | nil => simp
  | cons pair pairs ih =>
    obtain ⟨_, valued, others⟩ := lexical
    refine List.forall_mem_cons.mpr ⟨?_,ih others⟩
    split at valued
    · rename_i openEnded
      rw [if_pos openEnded]
      exact valued.2
    · rename_i closed
      rw [if_neg closed]
      simpa [Tree.endsValue] using valued

def Free (text? : Option String) : Prop :=
  ∀ text ∈ text?, ∀ c ∈ text.toList, c ≠ '/' ∧ c ≠ '¿'

theorem plainFields {info : Info} : info.Plain ↔ Free info.name ∧ Free info.value ∧
    Free info.identifier ∧ Free info.binder ∧ ∀ text ∈ info.typeText, ¬ ['¿',']'] <:+: text.toList := by
  constructor
  · rintro ⟨texts, typeText⟩
    simp only [List.forall_mem_cons] at texts
    exact ⟨texts.1,texts.2.1,texts.2.2.1,texts.2.2.2.1,typeText⟩
  · rintro ⟨name, value, identifier, binder, typeText⟩
    refine ⟨?_,typeText⟩
    simp only [List.forall_mem_cons]
    exact ⟨name,value,identifier,binder,by simp⟩

theorem ofPairsPlain {pairs : List (String × String)} (lexical : Tree.LexicalPairs pairs) :
    (ofPairs pairs).Plain := by
  refine ofPairsKeeps (P := Plain) (Term.plainTexts rfl rfl) ?_
  intro pair mem info info' set plain
  have value := valuesFree lexical pair mem
  obtain ⟨name, own, identifier, binder, typeText⟩ := plainFields.mp plain
  have marked {key : String} (same : pair.1 = key) (closed : Tree.isOpenEnded key.toList = false) :
      Free (some pair.2) := by
    rw [same, closed, if_neg Bool.false_ne_true] at value
    simpa [Free] using value
  rw [plainFields]
  unfold set? at set
  split at set
  · cases set
    exact ⟨marked ‹_› rfl,own,identifier,binder,typeText⟩
  · cases set
    exact ⟨name,marked ‹_› rfl,identifier,binder,typeText⟩
  · cases set
    exact ⟨name,own,marked ‹_› rfl,binder,typeText⟩
  · obtain ⟨n, _, rfl⟩ := Option.map_eq_some_iff.mp set
    exact ⟨name,own,identifier,binder,typeText⟩
  · cases set
    exact ⟨name,own,identifier,marked ‹_› rfl,typeText⟩
  · rename_i last
    cases set
    refine ⟨name,own,identifier,binder,?_⟩
    rintro text ⟨⟩
    rw [last, if_pos (show Tree.isOpenEnded "pp_type".toList = true from rfl)] at value
    exact value
  · cases set

theorem ofPairsAgain (pairs : List (String × String)) :
    ofPairs (ofPairs pairs).pairs = ofPairs pairs := by
  have small := ofPairsSmall pairs
  rw [ofPairsPairs]
  generalize ofPairs pairs = info at small
  obtain ⟨name, value, identifier, number, binder, typeText⟩ := info
  cases number with
  | none => rfl
  | some n => rw [Option.bind_some, Text.readNatNumeral (small n rfl)]

end Info

end ProofTutor
