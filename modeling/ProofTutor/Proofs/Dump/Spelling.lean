import ProofTutor.Dump.Reader

/-!
The grammar of trees as a relation: a tree has many spellings, which differ in the blanks before its
nodes and before the ends of lists of children. The printed form is one of them.
-/
namespace ProofTutor.Tree

/-! ### Lexical conditions -/

def LexicalTag (tag : String) : Prop :=
  tag.toList ≠ [] ∧ ∀ c ∈ tag.toList, endsTag c = false

def LexicalKey (key : String) : Prop :=
  key.toList ≠ [] ∧ ∀ c ∈ key.toList, endsKey c = false

instance (tag : String) : Decidable (LexicalTag tag) :=
  haveI := List.decidableBAll (fun c => endsTag c = false) tag.toList
  inferInstanceAs (Decidable (_ ∧ _))

instance (key : String) : Decidable (LexicalKey key) :=
  haveI := List.decidableBAll (fun c => endsKey c = false) key.toList
  inferInstanceAs (Decidable (_ ∧ _))

/-- Values are free of slashes and marks. A type text comes last and is free of the end mark of the
info list only. -/
def LexicalPairs : List (String × String) → Prop
  | [] => True
  | (key, value) :: pairs =>
    LexicalKey key ∧
      (if isOpenEnded key.toList then pairs = [] ∧ ¬ infoClose <:+: value.toList
        else ∀ c ∈ value.toList, endsValue c = false) ∧
      LexicalPairs pairs

instance lexicalPairsDecidable : (pairs : List (String × String)) → Decidable (LexicalPairs pairs)
  | [] => isTrue trivial
  | (_, value) :: pairs =>
    haveI := lexicalPairsDecidable pairs
    haveI := List.decidableBAll (fun c => endsValue c = false) value.toList
    inferInstanceAs (Decidable (_ ∧ _ ∧ _))

inductive Lexical : Tree → Prop where
  | node {tag : String} {info : List (String × String)} {children : List Tree}
      (tagged : LexicalTag tag) (pairs : LexicalPairs info) (below : ∀ t ∈ children, Lexical t) :
      Lexical ⟨tag,info,children⟩

/-! ### Info lists -/

def slashed (pairs : List (String × String)) : List Char :=
  pairs.flatMap fun pair => '/' :: printPair pair

theorem joinSlashed (pair : String × String) (pairs : List (String × String)) :
    Text.joinWith ['/'] ((pair :: pairs).map printPair) = printPair pair ++ slashed pairs := by
  induction pairs generalizing pair with
  | nil => simp [Text.joinWith, slashed]
  | cons next pairs ih =>
    have rest := ih next
    rw [List.map_cons, List.map_cons, Text.joinWith, ← List.map_cons, rest]
    · simp [slashed]
    · simp

/-! ### Spellings -/

def Spaces (cs : List Char) : Prop := ∀ c ∈ cs, isSpace c = true

mutual

inductive Spelling : Tree → List Char → Prop where
  | node {tag : String} {info : List (String × String)} {children : List Tree}
      {spaces text : List Char} (tagged : LexicalTag tag) (pairs : LexicalPairs info)
      (blank : Spaces spaces) (below : ChildrenSpelling children text) :
      Spelling ⟨tag,info,children⟩ (spaces ++ (tag.toList ++ (printInfo info ++ text)))

inductive ChildrenSpelling : List Tree → List Char → Prop where
  | nil : ChildrenSpelling [] []
  | cons {t : Tree} {ts : List Tree} {text more spaces : List Char} (first : Spelling t text)
      (rest : MoreSpelling ts more) (blank : Spaces spaces) :
      ChildrenSpelling (t :: ts) (childrenOpen ++ (text ++ (more ++ (spaces ++ childrenClose))))

inductive MoreSpelling : List Tree → List Char → Prop where
  | nil : MoreSpelling [] []
  | cons {t : Tree} {ts : List Tree} {text more : List Char} (first : Spelling t text)
      (rest : MoreSpelling ts more) : MoreSpelling (t :: ts) (childMark ++ (text ++ more))

end

mutual

theorem spellingLexical {t : Tree} {text : List Char} (spelled : Spelling t text) : Lexical t := by
  match spelled with
  | .node tagged pairs _ below => exact .node tagged pairs (childrenLexical below)

theorem childrenLexical {ts : List Tree} {text : List Char} (spelled : ChildrenSpelling ts text) :
    ∀ t ∈ ts, Lexical t := by
  match spelled with
  | .nil => exact fun _ mem => absurd mem List.not_mem_nil
  | .cons first rest _ =>
    exact List.forall_mem_cons.mpr ⟨spellingLexical first,moreLexical rest⟩

theorem moreLexical {ts : List Tree} {text : List Char} (spelled : MoreSpelling ts text) :
    ∀ t ∈ ts, Lexical t := by
  match spelled with
  | .nil => exact fun _ mem => absurd mem List.not_mem_nil
  | .cons first rest => exact List.forall_mem_cons.mpr ⟨spellingLexical first,moreLexical rest⟩

end

theorem spacesNil : Spaces [] := by
  intro c mem
  cases mem

theorem spacedSpelling {t : Tree} {text spaces : List Char} (spelled : Spelling t text)
    (blank : Spaces spaces) : Spelling t (spaces ++ text) := by
  cases spelled with
  | @node tag info children inner text tagged pairs own below =>
    rw [← List.append_assoc]
    exact .node tagged pairs (fun c mem => (List.mem_append.mp mem).elim (blank c) (own c)) below

theorem moreSpelling {ts : List Tree} (spelled : ∀ t ∈ ts, Spelling t t.print) :
    MoreSpelling ts (printMore ts) := by
  induction ts with
  | nil => exact .nil
  | cons t ts ih =>
    obtain ⟨first, rest⟩ := List.forall_mem_cons.mp spelled
    have spaced : Spelling t ([' '] ++ t.print) := spacedSpelling first (by simp [Spaces, isSpace])
    rw [printMore, List.append_assoc]
    exact .cons spaced (ih rest)

theorem childrenSpelling {ts : List Tree} (spelled : ∀ t ∈ ts, Spelling t t.print) :
    ChildrenSpelling ts (printChildren ts) := by
  cases ts with
  | nil => exact .nil
  | cons t ts =>
    obtain ⟨first, rest⟩ := List.forall_mem_cons.mp spelled
    rw [printChildren, List.append_assoc, List.append_assoc]
    exact @ChildrenSpelling.cons t ts _ _ [] first (moreSpelling rest) spacesNil

theorem printSpelling {t : Tree} (lexical : Lexical t) : Spelling t t.print := by
  induction lexical with
  | node tagged pairs below ih =>
    rw [print, List.append_assoc]
    exact @Spelling.node _ _ _ [] _ tagged pairs spacesNil (childrenSpelling ih)

end ProofTutor.Tree
