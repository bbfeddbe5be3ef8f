import Mathlib.Data.List.TakeDrop
import ProofTutor.Proofs.Dump.Lexing
import ProofTutor.Proofs.Dump.Spelling

/-!
The reader finds the tree of every spelling, and leaves what follows as long as it does not go on
with the tree. As it takes nothing of a text but a spelling, it decodes the grammar exactly.
-/

namespace ProofTutor.Tree

theorem stripOwn (head rest : List Char) : Text.stripHead? head (head ++ rest) = some rest :=
  Text.stripHeadSome.mpr rfl

/-! ### Runs of characters -/

theorem takeTillStop {ends : Char → Bool} {cs rest : List Char} (inside : ∀ c ∈ cs, ends c = false)
    (stop : ∀ c ∈ rest.head?, ends c = true) : takeTill ends (cs ++ rest) = (cs,rest) := by
  have inside : ∀ c ∈ cs, (!ends c) = true := by simpa using inside
  rw [takeTill, List.span_eq_takeWhile_dropWhile, List.takeWhile_append_of_pos inside,
    List.dropWhile_append_of_pos inside]
  cases rest with
  | nil => simp
  | cons c rest => simp [stop c rfl]

theorem takeTill1Stop {ends : Char → Bool} {cs rest : List Char} (nonempty : cs ≠ [])
    (inside : ∀ c ∈ cs, ends c = false) (stop : ∀ c ∈ rest.head?, ends c = true) :
    takeTill1? ends (cs ++ rest) = .some (cs,rest) := by
  rw [takeTill1?, takeTillStop inside stop]
  cases cs with
  | nil => exact absurd rfl nonempty
  | cons c cs => rfl

theorem dropSpacesStop {spaces rest : List Char} (blank : Spaces spaces)
    (stop : ∀ c ∈ rest.head?, isSpace c = false) : dropSpaces (spaces ++ rest) = rest := by
  rw [dropSpaces, List.dropWhile_append_of_pos blank]
  cases rest with
  | nil => rfl
  | cons c rest => simp [stop c rfl]

theorem cutInfoClose {cs : List Char} (rest : List Char) (free : ¬ infoClose <:+: cs) :
    Text.cut? infoClose (cs ++ (infoClose ++ rest)) = some (cs,rest) := by
  induction cs with
  | nil => simp [Text.cut?, infoClose, Text.stripHead?]
  | cons c cs ih =>
    have tail : ¬ infoClose <:+: cs := fun inside => free (inside.trans (List.suffix_cons c cs).isInfix)
    have head : Text.stripHead? infoClose (c :: cs ++ (infoClose ++ rest)) = none := by
      rw [Option.eq_none_iff_forall_not_mem]
      intro after found
      have same := Text.stripHeadSome.mp found
      cases cs with
      | nil => simp [infoClose] at same
      | cons next cs =>
        apply free
        simp only [infoClose, List.cons_append, List.cons.injEq] at same
        obtain ⟨rfl, rfl, _⟩ := same
        exact ⟨[],cs,rfl⟩
    rw [List.cons_append] at head ⊢
    rw [Text.cut?, head]
    simp [ih tail]

/-! ### Info lists -/

theorem readPairLexical {key value : String} {pairs : List (String × String)}
    (lexical : LexicalPairs ((key,value) :: pairs)) (rest : List Char) :
    readPair? (printPair (key,value) ++ (slashed pairs ++ (infoClose ++ rest))) =
      some ((key,value),slashed pairs ++ (infoClose ++ rest)) := by
  obtain ⟨⟨nonempty, inside⟩, valued, _⟩ := lexical
  have stop : ∀ c ∈ (slashed pairs ++ (infoClose ++ rest)).head?, endsValue c = true := by
    cases pairs with
    | nil => simp [slashed, infoClose, endsValue]
    | cons next pairs => simp [slashed, endsValue]
  have keyed (more : List Char) : takeTill1? endsKey (key.toList ++ ':' :: more) =
      .some (key.toList,':' :: more) := takeTill1Stop nonempty inside (by simp [endsKey])
  rw [printPair, List.append_assoc, List.cons_append, readPair?, keyed]
  simp only [Option.bind_eq_bind, Option.bind_some, Text.stripHead?, if_true]
  split at valued
  · rename_i open?
    obtain ⟨rfl, free⟩ := valued
    rw [if_pos open?, takeUntil?, slashed, List.flatMap_nil, List.nil_append,
      cutInfoClose rest free]
    simp
  · rename_i closed
    rw [if_neg closed, takeTillStop valued stop]
    simp

theorem readPairsLexical {pairs : List (String × String)} (lexical : LexicalPairs pairs)
    (rest : List Char) {fuel : Nat} (enough : pairs.length ≤ fuel) :
    readPairs fuel (slashed pairs ++ (infoClose ++ rest)) = (pairs,infoClose ++ rest) := by
  induction pairs generalizing fuel with
  | nil =>
    cases fuel with
    | zero => rfl
    | succ fuel => rfl
  | cons pair pairs ih =>
    cases fuel with
    | zero => simp at enough
    | succ fuel =>
      have next : slashed (pair :: pairs) ++ (infoClose ++ rest) =
          ['/'] ++ (printPair pair ++ (slashed pairs ++ (infoClose ++ rest))) := by simp [slashed]
      rw [readPairs, next, stripOwn, Option.bind_some, readPairLexical lexical]
      simp only [ih lexical.2.2 (Nat.le_of_succ_le_succ enough)]

theorem slashedLength (pairs : List (String × String)) : pairs.length ≤ (slashed pairs).length := by
  induction pairs with
  | nil => exact Nat.le_refl 0
  | cons pair pairs ih =>
    rw [slashed, List.flatMap_cons, List.length_append, List.length_cons, List.length_cons]
    rw [slashed] at ih
    omega

theorem readInfoLexical {info : List (String × String)} (lexical : LexicalPairs info)
    {rest : List Char} (apart : Text.stripHead? infoOpen rest = none) :
    readInfo (printInfo info ++ rest) = (info,rest) := by
  cases info with
  | nil =>
    show readInfo rest = ([],rest)
    rw [readInfo, readInfo?, apart]
    rfl
  | cons pair pairs =>
    have opened : printInfo (pair :: pairs) ++ rest =
        infoOpen ++ (printPair pair ++ (slashed pairs ++ (infoClose ++ rest))) := by
      rw [printInfo, if_neg (by simp), joinSlashed]
      simp only [List.append_assoc]
    have enough : pairs.length ≤ (slashed pairs ++ (infoClose ++ rest)).length := by
      have := slashedLength pairs
      rw [List.length_append]
      omega
    rw [opened, readInfo, readInfo?, stripOwn]
    simp only [Option.bind_eq_bind, Option.bind_some, readPairLexical lexical,
      readPairsLexical lexical.2.2 rest enough, stripOwn]
    rfl

/-! ### Trees -/

structure Apart (rest : List Char) : Prop where
  tag : ∀ c ∈ rest.head?, endsTag c = true
  info : Text.stripHead? infoOpen rest = none
  children : Text.stripHead? childrenOpen rest = none

theorem spaceEndsTag {c : Char} (space : isSpace c = true) : endsTag c = true := by
  simp only [isSpace, Bool.or_eq_true, beq_iff_eq] at space
  rcases space with ((rfl | rfl) | rfl) | rfl <;> decide

theorem apartNil : Apart [] where
  tag := by simp
  info := rfl
  children := rfl

theorem apartBracket (rest : List Char) : Apart (']' :: rest) where
  tag := by simp [endsTag]
  info := by simp [infoOpen, Text.stripHead?]
  children := by simp [childrenOpen, Text.stripHead?]

theorem apartSpace {c : Char} (rest : List Char) (space : isSpace c = true) : Apart (c :: rest) where
  tag := by simpa using spaceEndsTag space
  info := by
    have other : ¬ '¿' = c := by rintro rfl; cases space
    rw [infoOpen, Text.stripHead?, if_neg other]
  children := by
    have other : ¬ '¿' = c := by rintro rfl; cases space
    rw [childrenOpen, Text.stripHead?, if_neg other]

theorem apartMark (rest : List Char) : Apart (childMark ++ rest) where
  tag := by simp [childMark, endsTag]
  info := by simp [childMark, infoOpen, Text.stripHead?]
  children := by simp [childMark, childrenOpen, Text.stripHead?]

theorem apartClose (rest : List Char) : Apart (childrenClose ++ rest) where
  tag := by simp [childrenClose, endsTag]
  info := by simp [childrenClose, infoOpen, Text.stripHead?]
  children := by simp [childrenClose, childrenOpen, Text.stripHead?]

theorem apartEnding {spaces : List Char} (blank : Spaces spaces) (rest : List Char) :
    Apart (spaces ++ (childrenClose ++ rest)) := by
  cases spaces with
  | nil => exact apartClose rest
  | cons c spaces => exact apartSpace _ (blank c List.mem_cons_self)

theorem apartMore {ts : List Tree} {more rest : List Char} (spelled : MoreSpelling ts more)
    (apart : Apart rest) : Apart (more ++ rest) := by
  cases spelled with
  | nil => exact apart
  | cons first rest =>
    rw [List.append_assoc]
    exact apartMark _

theorem markAfterEnding {spaces : List Char} (blank : Spaces spaces) (rest : List Char) :
    Text.stripHead? childMark (spaces ++ (childrenClose ++ rest)) = none := by
  cases spaces with
  | nil => simp [childrenClose, childMark, Text.stripHead?]
  | cons c spaces =>
    have other : ¬ '¿' = c := by
      rintro rfl
      cases blank _ List.mem_cons_self
    rw [List.cons_append, childMark, Text.stripHead?, if_neg other]

theorem childrenApart {ts : List Tree} {text rest : List Char} (spelled : ChildrenSpelling ts text)
    (apart : Apart rest) : (∀ c ∈ (text ++ rest).head?, endsTag c = true) ∧
      Text.stripHead? infoOpen (text ++ rest) = none := by
  cases spelled with
  | nil => exact ⟨apart.tag,apart.info⟩
  | cons first rest blank =>
    exact ⟨by simp [childrenOpen, endsTag],by simp [childrenOpen, infoOpen, Text.stripHead?]⟩

theorem tagStop (info : List (String × String)) {text : List Char}
    (stop : ∀ c ∈ text.head?, endsTag c = true) :
    ∀ c ∈ (printInfo info ++ text).head?, endsTag c = true := by
  cases info with
  | nil => exact stop
  | cons pair pairs => simp [printInfo, infoOpen, endsTag]

theorem tagNoSpace {tag : String} (lexical : LexicalTag tag) (rest : List Char) :
    ∀ c ∈ (tag.toList ++ rest).head?, isSpace c = false := by
  obtain ⟨nonempty, inside⟩ := lexical
  cases chars : tag.toList with
  | nil => exact absurd chars nonempty
  | cons c cs =>
    intro head mem
    obtain rfl : c = head := by simpa using mem
    rw [chars] at inside
    refine Bool.eq_false_iff.mpr fun space => ?_
    exact absurd (spaceEndsTag space) (by simp [inside c])

mutual

theorem readSpelling {t : Tree} {text : List Char} (spelled : Spelling t text) {fuel : Nat}
    (enough : text.length ≤ fuel) {rest : List Char} (apart : Apart rest) :
    readWithin? fuel (text ++ rest) = some (t,rest) := by
  match spelled with
  | @Spelling.node tag info children spaces text tagged pairs blank below =>
    cases fuel with
    | zero =>
      have length := List.length_pos_iff.mpr tagged.1
      simp only [List.length_append] at enough
      omega
    | succ fuel =>
      have inner : text.length ≤ fuel := by
        have length := List.length_pos_iff.mpr tagged.1
        simp only [List.length_append] at enough
        omega
      obtain ⟨stop, plain⟩ := childrenApart below apart
      simp only [List.append_assoc]
      rw [readWithin?, dropSpacesStop blank (tagNoSpace tagged _),
        takeTill1Stop tagged.1 tagged.2 (tagStop info stop)]
      simp only [Option.bind_eq_bind, Option.bind_some, readInfoLexical pairs plain,
        readChildrenSpelling below inner apart]
      simp

theorem readChildrenSpelling {ts : List Tree} {text : List Char} (spelled : ChildrenSpelling ts text)
    {fuel : Nat} (enough : text.length ≤ fuel) {rest : List Char} (apart : Apart rest) :
    (readChildren? fuel (text ++ rest)).getD ([],text ++ rest) = (ts,rest) := by
  match spelled with
  | .nil =>
    cases fuel with
    | zero => rfl
    | succ fuel =>
      rw [List.nil_append, readChildren?, apart.children]
      rfl
  | @ChildrenSpelling.cons t ts text more spaces first others blank =>
    cases fuel with
    | zero => simp [childrenOpen] at enough
    | succ fuel =>
      simp only [List.length_append, childrenOpen, childrenClose, List.length_cons] at enough
      have ending := apartEnding blank rest
      have stop : ∀ c ∈ (childrenClose ++ rest).head?, isSpace c = false := by
        simp [childrenClose, isSpace]
      simp only [List.append_assoc]
      rw [readChildren?, stripOwn]
      simp only [Option.bind_eq_bind, Option.bind_some,
        readSpelling first (by omega : text.length ≤ fuel) (apartMore others ending),
        readMoreSpelling others (by omega : more.length ≤ fuel) ending (markAfterEnding blank rest),
        dropSpacesStop blank stop, stripOwn]
      rfl

theorem readMoreSpelling {ts : List Tree} {more : List Char} (spelled : MoreSpelling ts more)
    {fuel : Nat} (enough : more.length ≤ fuel) {rest : List Char} (apart : Apart rest)
    (unmarked : Text.stripHead? childMark rest = none) :
    readMore fuel (more ++ rest) = (ts,rest) := by
  match spelled with
  | .nil =>
    cases fuel with
    | zero => rfl
    | succ fuel =>
      rw [List.nil_append, readMore, unmarked]
      rfl
  | @MoreSpelling.cons t ts text more first others =>
    cases fuel with
    | zero => simp [childMark] at enough
    | succ fuel =>
      simp only [List.length_append, childMark, List.length_cons] at enough
      simp only [List.append_assoc]
      rw [readMore, stripOwn, Option.bind_some,
        readSpelling first (by omega : text.length ≤ fuel) (apartMore others apart)]
      simp only [readMoreSpelling others (by omega : more.length ≤ fuel) apart unmarked]

end

/-! ### The printed form -/

theorem dropEndSelf {cs : List Char} (last : ∀ c ∈ cs.getLast?, Text.isBlank c = false) :
    Text.dropEndBlanks cs = cs := by
  induction cs with
  | nil => rfl
  | cons c cs ih =>
    cases cs with
    | nil => simp [Text.dropEndBlanks, last c rfl]
    | cons next cs => rw [Text.dropEndBlanks, ih (by simpa using last)]

theorem stripSelf {cs : List Char} (first : ∀ c ∈ cs.head?, Text.isBlank c = false)
    (last : ∀ c ∈ cs.getLast?, Text.isBlank c = false) : Text.strip cs = cs := by
  have start : Text.dropBlanks cs = cs := by
    cases cs with
    | nil => rfl
    | cons c cs => simp [Text.dropBlanks, first c rfl]
  rw [Text.strip, start, dropEndSelf last]

theorem tagNotBlank {tag : String} (lexical : LexicalTag tag) :
    ∀ c ∈ tag.toList, Text.isBlank c = false := by
  intro c mem
  have free := lexical.2 c mem
  simp only [endsTag, Bool.or_eq_false_iff] at free
  exact free.2

theorem printFirst {t : Tree} (lexical : Lexical t) :
    ∀ c ∈ t.print.head?, Text.isBlank c = false := by
  cases lexical with
  | @node tag info children tagged pairs below =>
    intro c mem
    rw [print, List.append_assoc, List.head?_append, List.head?_eq_some_head tagged.1] at mem
    obtain rfl : tag.toList.head tagged.1 = c := Option.some.inj mem
    exact tagNotBlank tagged _ (List.head_mem tagged.1)

theorem printLast {t : Tree} (lexical : Lexical t) :
    ∀ c ∈ t.print.getLast?, Text.isBlank c = false := by
  cases lexical with
  | @node tag info children tagged pairs below =>
    intro c mem
    rw [print] at mem
    cases children with
    | cons t ts =>
      obtain rfl : ')' = c := by simpa [printChildren, childrenClose] using mem
      decide
    | nil =>
      cases info with
      | cons pair pairs =>
        obtain rfl : ']' = c := by simpa [printChildren, printInfo, infoClose] using mem
        decide
      | nil =>
        have last : tag.toList.getLast? = some c := by
          simpa [printChildren, printInfo] using mem
        exact tagNotBlank tagged c (List.mem_of_getLast? last)

theorem printTrimmed {t : Tree} (lexical : Lexical t) : Text.strip t.print = t.print :=
  stripSelf (printFirst lexical) (printLast lexical)

theorem printSome {t : Tree} (lexical : Lexical t) : t.print ≠ [] := by
  cases lexical with
  | node tagged pairs below => simp [print, tagged.1]

theorem readApart {t : Tree} {text : List Char} (spelled : Spelling t text) {rest : List Char}
    (apart : Apart rest) : read? (text ++ rest) = some (t,rest) := by
  rw [read?]
  refine readSpelling spelled ?_ apart
  rw [List.length_append]
  omega

theorem readPrinted {t : Tree} (lexical : Lexical t) : read? t.print = some (t,[]) := by
  have found := readApart (printSpelling lexical) apartNil
  rwa [List.append_nil] at found

/-! ### The grammar -/

inductive Follows : List Char → Prop where
  | nil : Follows []
  | bracket (rest : List Char) : Follows (']' :: rest)
  | space {c : Char} (space : isSpace c = true) (rest : List Char) : Follows (c :: rest)
  | mark (rest : List Char) : Follows (childMark ++ rest)
  | close (rest : List Char) : Follows (childrenClose ++ rest)

theorem Follows.apart {rest : List Char} (follows : Follows rest) : Apart rest := by
  cases follows with
  | nil => exact apartNil
  | bracket rest => exact apartBracket rest
  | space space rest => exact apartSpace rest space
  | mark rest => exact apartMark rest
  | close rest => exact apartClose rest

/-- Every spelling of a tree is read as the tree, up to what follows, and whatever is read is lexical
and was spelled so. -/
theorem grammarDecoded :
    (∀ t text rest, Spelling t text → Follows rest → read? (text ++ rest) = some (t,rest)) ∧
      ∀ cs t rest, read? cs = some (t,rest) →
        Lexical t ∧ ∃ text, Spelling t text ∧ cs = text ++ rest :=
  ⟨fun _ _ _ spelled follows => readApart spelled follows.apart,
    fun _ _ _ read => ⟨readLexical read,readSpelled read⟩⟩

def declaration : Tree :=
  { tag := "QUANT_∀", info := [("name",""),("name","x"),("colour",":")]
    children := [{ tag := "TYPE" },
      { tag := "LOCAL_CONSTANT", info := [("identifier","0"),("pp_type","a/b¿)")] }] }

def declarationText : List Char :=
  "\r\n QUANT_∀¿[name:/name:x/colour::¿]¿(\tTYPE¿,".toList ++
    "LOCAL_CONSTANT¿[identifier:0/pp_type:a/b¿)¿]\n¿)".toList

theorem declarationSpelled : Spelling declaration declarationText := by
  have type : Spelling { tag := "TYPE" } (['\t'] ++ print { tag := "TYPE" }) :=
    spacedSpelling (printSpelling (.node (by decide) (by decide) (by simp))) (by simp [Spaces, isSpace])
  have constant : Spelling { tag := "LOCAL_CONSTANT", info := [("identifier","0"),("pp_type","a/b¿)")] }
      (print { tag := "LOCAL_CONSTANT", info := [("identifier","0"),("pp_type","a/b¿)")] }) :=
    printSpelling (.node (by decide) (by decide) (by simp))
  have blank : Spaces ['\n'] := by simp [Spaces, isSpace]
  have before : Spaces ['\r','\n',' '] := by simp [Spaces, isSpace]
  have whole : Spelling declaration _ :=
    .node (by decide) (by decide) before (.cons type (.cons constant .nil) blank)
  exact Eq.subst (motive := Spelling declaration) (by decide +kernel) whole

theorem grammarDecodedDeclaration : Spelling declaration declarationText ∧ Follows ['¿',',','Z'] ∧
    read? (declarationText ++ ['¿',',','Z']) = some (declaration,['¿',',','Z']) ∧
    Lexical declaration ∧ ∃ text, Spelling declaration text ∧
      declarationText ++ ['¿',',','Z'] = text ++ ['¿',',','Z'] := by
  have follows : Follows ['¿',',','Z'] := .mark ['Z']
  have read := grammarDecoded.1 declaration declarationText _ declarationSpelled follows
  exact ⟨declarationSpelled,follows,read,grammarDecoded.2 _ _ _ read⟩

end ProofTutor.Tree
