import ProofTutor.Proofs.Dump.Spelling
import ProofTutor.Proofs.Text.Basic
import ProofTutor.Term.Introspection

/-!
What a term is written as can be read: info records come back from their pairs, and the tree of a
clean term has only tags, keys and values that the format can tell apart.
-/
namespace ProofTutor

namespace Info

def store (key : String) (info : Info) (value? : Option String) : Info :=
  value?.elim info fun value => (info.set? key value).getD info

theorem ofFields (info : Info) (fields : List (String × Option String)) :
    (fields.filterMap fun (key, value) => value.map (key,·)).foldl
      (fun info (key, value) => (info.set? key value).getD info) info =
      fields.foldl (fun info field => store field.1 info field.2) info := by
  induction fields generalizing info with
  | nil => rfl
  | cons field fields ih =>
    obtain ⟨key, value?⟩ := field
    cases value? with
    | none => exact ih info
    | some value => exact ih _

theorem storeNumber (info : Info) (number? : Option Nat) :
    store "bound_var_number" info (number?.map fun n => toString n) =
      { info with
        number := (number?.bind fun n => Text.readNat? Text.word32 (toString n).toList).or
          info.number } := by
  cases number? with
  | none => rfl
  | some n =>
    simp only [store, Option.map_some, Option.elim_some, set?, Option.bind_some]
    cases Text.readNat? Text.word32 (toString n).toList with
    | none => rfl
    | some m => rfl

theorem ofPairsPairs (info : Info) : ofPairs info.pairs =
    { info with
      number := info.number.bind fun n => Text.readNat? Text.word32 (toString n).toList } := by
  obtain ⟨name, value, identifier, number?, binder, typeText⟩ := info
  have before : [("name",name),("value",value),("identifier",identifier)].foldl
      (fun info field => store field.1 info field.2) {} = { name, value, identifier } := by
    cases name <;> cases value <;> cases identifier <;> rfl
  have after (number : Option Nat) : [("binder_info",binder),("pp_type",typeText)].foldl
      (fun info field => store field.1 info field.2) { name, value, identifier, number } =
        { name, value, identifier, number, binder, typeText } := by
    cases binder <;> cases typeText <;> rfl
  simp only [List.foldl_cons, List.foldl_nil] at before after
  rw [ofPairs, pairs, ofFields]
  simp only [List.foldl_cons, List.foldl_nil]
  rw [before, storeNumber, Option.or_none, after]

theorem ofPairsTexts (info : Info) : ∃ number, ofPairs info.pairs = { info with number } :=
  ⟨_,ofPairsPairs info⟩

structure Plain (info : Info) : Prop where
  texts : ∀ field ∈ [info.name,info.value,info.identifier,info.binder], ∀ text ∈ field,
    ∀ c ∈ text.toList, c ≠ '/' ∧ c ≠ '¿'
  typeText : ∀ text ∈ info.typeText, ¬ ['¿',']'] <:+: text.toList

end Info

namespace Tree

theorem freeValue {text : String} (free : ∀ c ∈ text.toList, c ≠ '/' ∧ c ≠ '¿') :
    ∀ c ∈ text.toList, endsValue c = false := by
  intro c mem
  simp [endsValue, free c mem]

theorem numeralFree (n : Nat) : ∀ c ∈ (toString n).toList, c ≠ '/' ∧ c ≠ '¿' := by
  intro c mem
  have digit := Text.numeralDigits mem
  constructor
  · rintro rfl
    cases digit
  · rintro rfl
    cases digit

theorem lexicalAppend {pairs last : List (String × String)}
    (each : ∀ pair ∈ pairs, LexicalKey pair.1 ∧ isOpenEnded pair.1.toList = false ∧
      ∀ c ∈ pair.2.toList, endsValue c = false) (lexical : LexicalPairs last) :
    LexicalPairs (pairs ++ last) := by
  induction pairs with
  | nil => exact lexical
  | cons pair pairs ih =>
    obtain ⟨⟨key, closed, value⟩, others⟩ := List.forall_mem_cons.mp each
    exact ⟨key,by rwa [if_neg (by simp [closed])],ih others⟩

def fields (info : Info) : List (String × Option String) :=
  [("name",info.name),("value",info.value),("identifier",info.identifier),
    ("bound_var_number",info.number.map fun n => toString n),("binder_info",info.binder)]

theorem fieldKey {info : Info} {field : String × Option String} (mem : field ∈ fields info) :
    LexicalKey field.1 ∧ isOpenEnded field.1.toList = false := by
  have each : ∀ key ∈ ["name","value","identifier","bound_var_number","binder_info"],
      LexicalKey key ∧ isOpenEnded key.toList = false := by decide +kernel
  exact each field.1 (List.mem_map_of_mem (f := Prod.fst) mem)

theorem fieldFree {info : Info} (plain : info.Plain) {field : String × Option String}
    (mem : field ∈ fields info) : ∀ text ∈ field.2, ∀ c ∈ text.toList, c ≠ '/' ∧ c ≠ '¿' := by
  have texts := plain.texts
  simp only [List.forall_mem_cons] at texts
  obtain ⟨name, value, identifier, binder, _⟩ := texts
  simp only [fields, List.mem_cons, List.not_mem_nil, or_false] at mem
  rcases mem with rfl | rfl | rfl | rfl | rfl
  · exact name
  · exact value
  · exact identifier
  · intro text same
    obtain ⟨n, _, rfl⟩ := Option.map_eq_some_iff.mp same
    exact numeralFree n
  · exact binder

theorem pairsLexical {info : Info} (plain : info.Plain) : LexicalPairs info.pairs := by
  show LexicalPairs ((fields info ++ [("pp_type",info.typeText)]).filterMap
    fun (key, value) => value.map (key,·))
  rw [List.filterMap_append]
  apply lexicalAppend
  · intro pair mem
    obtain ⟨field, inside, same⟩ := List.mem_filterMap.mp mem
    obtain ⟨value, valued, rfl⟩ := Option.map_eq_some_iff.mp same
    obtain ⟨key, closed⟩ := fieldKey inside
    exact ⟨key,closed,freeValue (fieldFree plain inside value valued)⟩
  · have typeText := plain.typeText
    cases text? : info.typeText with
    | none => exact trivial
    | some text =>
      have key : LexicalKey "pp_type" ∧ isOpenEnded "pp_type".toList = true := by decide +kernel
      refine ⟨key.1,?_,trivial⟩
      rw [if_pos key.2]
      exact ⟨rfl,typeText text text?⟩

theorem tagLexical (kind : Kind) : LexicalTag kind.tag := by
  have each : ∀ kind ∈ Kind.all, LexicalTag kind.tag := by decide +kernel
  exact each kind (Kind.allMember kind)

end Tree

namespace Term

theorem plainTexts {info : Info}
    (free : [info.name,info.value,info.identifier,info.binder].all
      (fun field => field.all fun text => text.toList.all fun c => c != '/' && c != '¿') = true)
    (untyped : info.typeText = none) : info.Plain where
  texts := by
    intro field mem text own c inside
    have all := List.all_eq_true.mp free field mem
    rw [own] at all
    simpa using List.all_eq_true.mp all c inside
  typeText := by simp [untyped]

inductive Clean : Term → Prop where
  | node {kind : Kind} {info : Info} {children : List Term} {type? : Option Term}
      (code : kind ≠ .rawCode) (plain : info.Plain) (below : ∀ t ∈ children, Clean t)
      (typed : kind = .localConstant → ∀ type ∈ type?, Clean type) :
      Clean ⟨kind,info,children,type?⟩

inductive Writable : Term → Prop where
  | node {kind : Kind} {info : Info} {children : List Term} {type? : Option Term}
      (tag : Tree.LexicalTag (writtenHead kind info).1) (plain : (writtenHead kind info).2.Plain)
      (below : ∀ t ∈ children, Writable t)
      (typed : kind = .localConstant → ∀ type ∈ type?, Writable type) :
      Writable ⟨kind,info,children,type?⟩

theorem treesMem {inBinder : Bool} {index : Nat} {ts : List Term} {written : Tree}
    (mem : written ∈ trees inBinder index ts) : ∃ t ∈ ts, ∃ declared, written = t.tree declared := by
  induction ts generalizing index with
  | nil =>
    rw [trees] at mem
    cases mem
  | cons t ts ih =>
    rw [trees] at mem
    rcases List.mem_cons.mp mem with rfl | later
    · exact ⟨t,List.mem_cons_self,_,rfl⟩
    · obtain ⟨other, inside, written⟩ := ih later
      exact ⟨other,List.mem_cons_of_mem t inside,written⟩

theorem treeNode (kind : Kind) (info : Info) (children : List Term) (type? : Option Term)
    (declared : Bool) : (⟨kind,info,children,type?⟩ : Term).tree declared =
      ⟨(writtenHead kind info).1,(writtenHead kind info).2.pairs,
        match kind == .localConstant && !declared, type? with
        | true, some type => [type.tree false]
        | _, _ => trees kind.isBinder 0 children⟩ := by
  rw [tree.eq_def]
  dsimp only
  generalize (kind == .localConstant && !declared) = typed
  cases typed with
  | false => rfl
  | true =>
    cases type? with
    | none => rfl
    | some type => rfl

theorem boundPlain {text : String} (plain : ∀ c ∈ text.toList, c ≠ '/' ∧ c ≠ '¿') :
    ∀ c ∈ ("_bound." ++ text).toList, c ≠ '/' ∧ c ≠ '¿' := by
  have bound : ∀ c ∈ "_bound.".toList, c ≠ '/' ∧ c ≠ '¿' := by simp
  intro c mem
  rw [String.toList_append] at mem
  rcases List.mem_append.mp mem with first | rest
  · exact bound c first
  · exact plain c rest

theorem identifierPlain {info : Info} (plain : info.Plain) :
    ∀ c ∈ (writtenIdentifier info).toList, c ≠ '/' ∧ c ≠ '¿' := by
  have texts := plain.texts
  simp only [List.forall_mem_cons] at texts
  obtain ⟨name, _, identifier, _⟩ := texts
  rw [writtenIdentifier]
  split
  · exact identifier _ ‹_›
  · exact boundPlain (Tree.numeralFree _)
  · apply boundPlain
    cases named : info.name with
    | none => simp
    | some own => exact name own named

theorem headWritten {kind : Kind} {info : Info} (code : kind ≠ .rawCode) (plain : info.Plain) :
    Tree.LexicalTag (writtenHead kind info).1 ∧ (writtenHead kind info).2.Plain := by
  have texts := plain.texts
  simp only [List.forall_mem_cons] at texts
  obtain ⟨name, _, _, binder, _⟩ := texts
  unfold writtenHead
  split
  · refine ⟨Tree.tagLexical .localConstant,⟨?_,by simp⟩⟩
    simp only [List.forall_mem_cons]
    exact ⟨name,by simp,by simpa using identifierPlain plain,binder,by simp⟩
  · exact absurd rfl code
  · exact ⟨Tree.tagLexical _,plain⟩

theorem Clean.writable {t : Term} (clean : Clean t) : Writable t := by
  induction clean with
  | node code plain _ _ ih ihType =>
    obtain ⟨tag, head⟩ := headWritten code plain
    exact .node tag head ih ihType

theorem treeWritable {t : Term} (writable : Writable t) (declared : Bool) :
    (t.tree declared).Lexical := by
  induction writable generalizing declared with
  | @node kind info children type? tag plain below typed ih ihType =>
    rw [treeNode]
    refine .node tag (Tree.pairsLexical plain) ?_
    split
    · rename_i type free
      have isLocal : kind = .localConstant := eq_of_beq (Bool.and_eq_true_iff.mp free).1
      simpa using ihType isLocal type rfl false
    · intro tree mem
      obtain ⟨t, inside, declared, rfl⟩ := treesMem mem
      exact ih t inside declared

theorem treeLexical {t : Term} (clean : Clean t) (declared : Bool) :
    (t.tree declared).Lexical :=
  treeWritable clean.writable declared

end Term

end ProofTutor
