import ProofTutor.Proofs.Dump.Decoding
import ProofTutor.Proofs.Dump.Finishing
import ProofTutor.Proofs.Dump.Printing

/-!
Goals that are printed to the two dumps come back when the dumps are decoded: as many, in order, with
their targets and with the entries of their contexts, up to the names of bound variables and of entries
that share a name.
-/
namespace ProofTutor

namespace Decoder

/-! ### Outlines -/

theorem outlineNumerals (type t : Term) : (typeNumerals type t).outline = t.outline := by
  induction t using Term.nodeInduction with
  | node kind info children type? ih =>
    cases type? with
    | some own => rw [typeNumerals]
    | none =>
      rw [typeNumerals]
      split
      · have below : (children.map (typeNumerals type)).map Term.outline =
            children.map Term.outline := by
          rw [List.map_map]
          exact List.map_congr_left ih
        rw [typeNumeralsInMap, Term.outlineNode, Term.outlineNode, below]
      · rfl

theorem outlineSiblings (ts : List Term) :
    (typeSiblings ts).map Term.outline = ts.map Term.outline := by
  rw [typeSiblings]
  split
  · rw [typeNumeralsInMap, List.map_map]
    exact List.map_congr_left fun t _ => outlineNumerals _ t
  · rfl

theorem outlineAllDecoded {scope : List Variable} {bound : List Nat} {ts : List Term}
    (each : ∀ t ∈ ts, ∀ d : Decoder, d.Interns → Covers scope bound d.nextNumber →
      (build scope (t.tree false) d).1.outline = t.outline) (index : Nat) :
    ∀ d : Decoder, d.Interns → Covers scope bound d.nextNumber →
      (buildAll scope (Term.trees false index ts) d).1.map Term.outline = ts.map Term.outline := by
  induction ts generalizing index with
  | nil =>
    intro d _ _
    rw [Term.trees, buildAll]
  | cons t ts ih =>
    intro d interns covers
    obtain ⟨first, rest⟩ := List.forall_mem_cons.mp each
    have after := buildFollows (t.tree false) scope d
    rw [Term.trees, Bool.false_and, buildAll, List.map_cons, List.map_cons, first d interns covers,
      ih rest (index + 1) _ (after.interns interns) (covers.later after.next)]

theorem outlineDecoded {bound : List Nat} {t : Term} (closed : Term.ScopedIn bound t) :
    ∀ (scope : List Variable) (d : Decoder), t.Clean → d.Interns →
      Covers scope bound d.nextNumber → (build scope (t.tree false) d).1.outline = t.outline := by
  induction closed with
  | @occurrence bound info type? n number unnamed inside =>
    intro scope d _ _ covers
    obtain ⟨v, found, _⟩ := covers.found n inside
    obtain ⟨other, read⟩ := Info.ofPairsTexts (Term.writtenVariable info n)
    rw [variableOf?] at found
    rw [Term.variableTree number unnamed, buildConstant, read, known?]
    simp only [Term.writtenVariable, Option.bind_some, found]
    exact Term.outlineEq.mpr ⟨rfl,by simp [Term.boundVar],rfl⟩
  | @constant bound info type? free =>
    intro scope d _ interns covers
    obtain ⟨number, read⟩ := Info.ofPairsTexts info
    rw [Term.treeNode]
    show (build scope ⟨Kind.localConstant.tag,info.pairs,_⟩ d).1.outline = _
    rw [buildConstant, read]
    split
    · rename_i t known
      obtain ⟨kind, identifier, children⟩ := knownConstant covers interns free known
      exact Term.outlineEq.mpr ⟨kind,fun _ => identifier,by rw [children]⟩
    · exact Term.outlineEq.mpr ⟨rfl,fun _ => rfl,rfl⟩
    · exact Term.outlineEq.mpr ⟨rfl,fun _ => rfl,rfl⟩
  | @binder bound kind info own type body ownType? type? n binds number unnamed fresh typed inside
      ihType ihBody =>
    intro scope d clean interns covers
    cases clean with
    | node code plain below _ =>
      simp only [List.forall_mem_cons] at below
      obtain ⟨cleanType, _, cleanBody, _⟩ := below
      obtain ⟨first, second, v, info', own', counted, after, named, above, next, _, type?', built⟩ :=
        @binderBuilt scope kind info own type body ownType? type? n binds number unnamed d
      have interned := counted.interns interns
      have atType := covers.later counted.next
      have atBinder : Covers scope bound v.number := atType.later above
      have notConstant : kind ≠ .localConstant := by rintro rfl; cases binds
      have ownVariable : (declared own' v.number (build scope (type.tree false) first).1).outline =
          (⟨.boundVar,own,[],ownType?⟩ : Term).outline :=
        Term.outlineEq.mpr ⟨rfl,by simp [declared],rfl⟩
      rw [built]
      refine Term.outlineEq.mpr ⟨rfl,fun same => absurd same notConstant,?_⟩
      simp only [List.map_cons, List.map_nil]
      rw [ihType scope first cleanType interned atType, ownVariable,
        ihBody (v :: scope) second cleanBody (after.interns interned) (next ▸ atBinder.enter named)]
  | @compound bound kind info children type? notVariable notConstant notBinder below ih =>
    intro scope d clean interns covers
    cases clean with
    | node code plain cleanBelow _ =>
      have counted := checkCountFollows d kind.tag kind (Term.trees false 0 children).length
      have all := outlineAllDecoded
        (fun t mem d interns covers => ih t mem scope d (cleanBelow t mem) interns covers) 0 _
        (counted.interns interns) (covers.later counted.next)
      rw [Term.compoundTree notVariable notConstant code, notBinder,
        buildCompound notConstant (.inl notBinder) rfl]
      refine Term.outlineEq.mpr ⟨rfl,fun same => absurd same notConstant,?_⟩
      exact (outlineSiblings _).trans all

end Decoder

namespace Dump

/-! ### Printed goals -/

structure PrintedEntry where
  kind : RecordKind
  name : String
  identifier : String
  type : Term

def PrintedEntry.record (e : PrintedEntry) : Record where
  kind := e.kind
  head := ⟨Kind.localConstant.tag,[("name",e.name),("identifier",e.identifier)],[]⟩
  tail := e.type.tree false

structure PrintedGoal where
  context : List PrintedEntry
  head : Tree
  target : Term

def PrintedGoal.record (g : PrintedGoal) : Record where
  kind := .property
  head := g.head
  tail := g.target.tree false

def PrintedGoal.lines (g : PrintedGoal) : List (List Char) :=
  g.context.map fun e => e.record.print

def printedContext (goals : List PrintedGoal) : String :=
  .ofList (printBlocks (goals.map (·.lines)))

def printedTargets (goals : List PrintedGoal) : String :=
  .ofList (printTargets (goals.map fun g => g.record.print))

structure PrintableIn (bound : List Nat) (t : Term) : Prop where
  clean : t.Clean
  unmarked : t.Unmarked
  closed : t.ScopedIn bound

structure PrintedEntry.WellFormed (e : PrintedEntry) : Prop where
  name : ∀ c ∈ e.name.toList, c ≠ '/' ∧ c ≠ '¿'
  identifier : ∀ c ∈ e.identifier.toList, c ≠ '/' ∧ c ≠ '¿'
  type : PrintableIn [] e.type
  line : '\n' ∉ e.record.print

structure PrintedGoal.WellFormed (g : PrintedGoal) : Prop where
  context : ∀ e ∈ g.context, e.WellFormed
  head : g.head.Lexical
  unmarkedHead : g.head.Unmarked
  target : PrintableIn [] g.target

theorem PrintedEntry.WellFormed.printable {e : PrintedEntry} (wellFormed : e.WellFormed) :
    e.record.Printable where
  head := by
    have keys : Tree.LexicalKey "name" ∧ Tree.LexicalKey "identifier" := by decide +kernel
    have closed : ¬ Tree.isOpenEnded "name".toList = true ∧
        ¬ Tree.isOpenEnded "identifier".toList = true := by decide +kernel
    refine .node (Tree.tagLexical _) ⟨keys.1,?_,keys.2,?_,trivial⟩ (by simp)
    · rw [if_neg closed.1]
      exact Tree.freeValue wellFormed.name
    · rw [if_neg closed.2]
      exact Tree.freeValue wellFormed.identifier
  tail := Term.treeLexical wellFormed.type.clean false
  freeHead := by
    refine .node ?_ (by simp)
    simp only [List.forall_mem_cons]
    exact ⟨fun mem => (wellFormed.name _ mem).2 rfl,fun mem => (wellFormed.identifier _ mem).2 rfl,
      by simp⟩
  freeTail := Term.treeUnmarked wellFormed.type.clean wellFormed.type.unmarked false

theorem PrintedGoal.WellFormed.printable {g : PrintedGoal} (wellFormed : g.WellFormed) :
    g.record.Printable where
  head := wellFormed.head
  tail := Term.treeLexical wellFormed.target.clean false
  freeHead := wellFormed.unmarkedHead
  freeTail := Term.treeUnmarked wellFormed.target.clean wellFormed.target.unmarked false

/-! ### What is read for them -/

structure Decodes (printed t : Term) : Prop where
  closed : printed.ScopedIn []
  alphaEq : t.alphaEq printed = true
  outline : t.outline = printed.outline

structure Declares (e : PrintedEntry) (t : Term) : Prop where
  name : t.name? = some e.name
  identifier : t.identifier? = some e.identifier
  type : ∃ type, t.type? = some type ∧ Decodes e.type type

structure Reads (g : PrintedGoal) (raw : RawGoal) : Prop where
  context : List.Forall₂ Declares g.context raw.context
  target : Decodes g.target raw.target

theorem termReturned {t : Term} (printable : PrintableIn [] t) {d : Decoder} (interns : d.Interns) :
    Decodes t (Decoder.build [] (t.tree false) d).1 where
  closed := printable.closed
  alphaEq := Decoder.termDecoded printable.closed [] [] d printable.clean interns (Decoder.noneCovered _)
    (by simp [Decoder.Paired])
  outline := Decoder.outlineDecoded printable.closed [] d printable.clean interns (Decoder.noneCovered _)

theorem entryReturned {e : PrintedEntry} (wellFormed : e.WellFormed) {d : Decoder}
    (interns : d.Interns) :
    ∃ t after, d.entry? e.record = (some t,after) ∧ Declares e t ∧ d.Follows after := by
  have info : Info.ofPairs e.record.head.info =
      { name := some e.name, identifier := some e.identifier } := rfl
  have built := Decoder.buildFollows e.record.tail [] d
  rw [Decoder.entry?, info]
  refine ⟨_,_,rfl,⟨rfl,rfl,_,rfl,termReturned wellFormed.type interns⟩,?_⟩
  exact built.trans (Decoder.internFollows _ rfl rfl)

-- one decoder reads all records, so what is interned is carried along
theorem contextReturned {context : List PrintedEntry} (wellFormed : ∀ e ∈ context, e.WellFormed)
    {d : Decoder} (interns : d.Interns) :
    ∃ ts after, readContext (context.map fun e => e.record.print) d = (ts,after) ∧
      List.Forall₂ Declares context ts ∧ d.Follows after := by
  induction context generalizing d with
  | nil => exact ⟨[],d,rfl,.nil,Decoder.followsSelf d⟩
  | cons e context ih =>
    obtain ⟨here, others⟩ := List.forall_mem_cons.mp wellFormed
    obtain ⟨t, next, read, declares, first⟩ := entryReturned here interns
    obtain ⟨ts, after, rest, all, last⟩ := ih others (first.interns interns)
    refine ⟨t :: ts,after,?_,.cons declares all,first.trans last⟩
    rw [List.map_cons, readContext, Record.readPrinted here.printable]
    simp [read, rest]

theorem alignedCons {blocks : List (List (List Char))} {index : Nat} {g : PrintedGoal}
    {goals : List PrintedGoal} (aligned : blocks.drop index = (g :: goals).map (·.lines)) :
    blockAt blocks index = g.lines ∧ blocks.drop (index + 1) = goals.map (·.lines) := by
  have own : blocks[index]? = some g.lines := by
    rw [← List.head?_drop, aligned]
    rfl
  refine ⟨by rw [blockAt, own]; rfl,?_⟩
  rw [← List.tail_drop, aligned]
  rfl

theorem goalsReturned {goals : List PrintedGoal} (wellFormed : ∀ g ∈ goals, g.WellFormed)
    {blocks : List (List (List Char))} {index : Nat}
    (aligned : blocks.drop index = goals.map (·.lines)) {d : Decoder} (interns : d.Interns) :
    ∃ raws after, readGoals blocks index (goals.map fun g => g.record.print) d = (raws,after) ∧
      List.Forall₂ Reads goals raws ∧ d.Follows after := by
  induction goals generalizing index d with
  | nil => exact ⟨[],d,rfl,.nil,Decoder.followsSelf d⟩
  | cons g goals ih =>
    obtain ⟨here, others⟩ := List.forall_mem_cons.mp wellFormed
    obtain ⟨block, next⟩ := alignedCons aligned
    obtain ⟨ts, middle, context, declares, first⟩ := contextReturned here.context interns
    have target := termReturned here.target (first.interns interns)
    have second := Decoder.buildFollows (g.target.tree false) [] middle
    have both := first.trans second
    obtain ⟨raws, after, rest, all, last⟩ := ih others next (both.interns interns)
    refine ⟨⟨ts,_,g.head.info? "pp_type"⟩ :: raws,after,?_,.cons ⟨declares,target⟩ all,both.trans last⟩
    rw [List.map_cons, readGoals, Record.readPrinted here.printable, block, PrintedGoal.lines, context]
    exact congrArg (fun goals => (_ :: goals.1,goals.2)) rest

/-! ### What is shown of them -/

theorem shownAlphaEq {printed t : Term} (decodes : Decodes printed t) (naming : Naming)
    (raw : RawGoal) : (shown naming raw t).alphaEq printed = true := by
  rw [shown, Naming.nameBound, Term.alphaEq,
    Naming.alphaEqNamed _ _ _ _ _ _ _ decodes.closed.numbered, alphaEqRenamed _ decodes.outline]
  exact decodes.alphaEq

structure Shows (g : PrintedGoal) (e : PrintedEntry) (entry : Entry) : Prop where
  identifier : entry.identifier? = some e.identifier
  type : entry.type.alphaEq e.type = true
  name : (g.context.map (·.name)).Nodup → entry.name = e.name

structure ReadBack (printed : PrintedGoal) (g : Goal) : Prop where
  target : g.target.alphaEq printed.target = true
  context : ∃ objects propositions, objects.Sublist printed.context ∧
    propositions.Sublist printed.context ∧ (objects ++ propositions).Perm printed.context ∧
      List.Forall₂ (Shows printed) objects g.objects ∧
        List.Forall₂ (Shows printed) propositions g.propositions
  parts : g.context = g.objects ++ g.propositions

theorem declaredNames {context : List PrintedEntry} {ts : List Term}
    (declares : List.Forall₂ Declares context ts) : ts.map shownName = context.map (·.name) := by
  induction declares with
  | nil => rfl
  | cons here rest ih =>
    have own := here.name
    rw [List.map_cons, List.map_cons, ih, shownName, own]
    rfl

theorem entryShows {naming : Naming} {g : PrintedGoal} {raw : RawGoal} (reads : Reads g raw)
    {e : PrintedEntry} {t : Term} {entry : Entry} (declares : Declares e t)
    (finished : Finished naming raw t entry) : Shows g e entry where
  identifier := by
    obtain ⟨t', ⟨name, rfl⟩, rfl⟩ := finished.entry
    exact declares.identifier
  type := by
    obtain ⟨t', ⟨name, rfl⟩, rfl⟩ := finished.entry
    obtain ⟨type, typed, decodes⟩ := declares.type
    have own : (entryOf naming raw { t with info := { t.info with name } }).type =
        shown naming raw type := by
      simp [entryOf, Entry.type, onType, Term.type, typed]
    rw [own]
    exact shownAlphaEq decodes naming raw
  name := by
    intro distinct
    rw [← declaredNames reads.context] at distinct
    have own := declares.name
    rw [finished.named distinct]
    simp only [Term.name?] at own
    simp [entryOf, Entry.name, onType, Term.name?, own]

theorem goalShows (naming : Naming) {g : PrintedGoal} {raw : RawGoal} (reads : Reads g raw) :
    ReadBack g (finish naming raw) where
  target := shownAlphaEq reads.target naming raw
  context := by
    obtain ⟨objects, propositions, _⟩ := finishParts naming raw
    obtain ⟨first, last, inFirst, inLast, all, one, two⟩ :=
      matchedFilter reads.context (!·.type.isProp)
    simp only [Bool.not_not] at two
    refine ⟨first,last,inFirst,inLast,all,?_,?_⟩
    · exact (matchedTrans one objects).imp fun e entry ⟨t, declares, finished⟩ =>
        entryShows reads declares finished
    · exact (matchedTrans two propositions).imp fun e entry ⟨t, declares, finished⟩ =>
        entryShows reads declares finished
  parts := (finishParts naming raw).2.2

theorem linesReturned {goals : List PrintedGoal} (wellFormed : ∀ g ∈ goals, g.WellFormed)
    (nonempty : goals ≠ []) : contextBlocks (printBlocks (goals.map (·.lines))) = goals.map (·.lines) := by
  apply blocksPrinted (by simpa using nonempty)
  intro block mem line inside
  obtain ⟨g, among, rfl⟩ := List.mem_map.mp mem
  obtain ⟨e, own, rfl⟩ := List.mem_map.mp inside
  have entry := (wellFormed g among).context e own
  exact ⟨Record.printWhole entry.printable,entry.line⟩

theorem targetsReturned {goals : List PrintedGoal} (wellFormed : ∀ g ∈ goals, g.WellFormed) :
    targetTexts (printTargets (goals.map fun g => g.record.print)) =
      goals.map fun g => g.record.print := by
  apply targetsPrinted
  · intro text mem
    obtain ⟨g, among, rfl⟩ := List.mem_map.mp mem
    exact Record.printWhole (wellFormed g among).printable
  · intro text mem
    obtain ⟨g, _, rfl⟩ := List.mem_map.mp mem
    simp [Record.print, PrintedGoal.record, RecordKind.tag]

theorem dumpReadBack {goals : List PrintedGoal} (wellFormed : ∀ g ∈ goals, g.WellFormed)
    (naming : Naming) :
    List.Forall₂ ReadBack goals
        (decode naming (printedContext goals) (printedTargets goals)).state.goals ∧
      ∀ w ∈ (decode naming (printedContext goals) (printedTargets goals)).warnings,
        w.skips = false := by
  have aligned : goals ≠ [] →
      contextBlocks (printedContext goals).toList = goals.map (·.lines) := by
    intro nonempty
    rw [printedContext, String.toList_ofList, linesReturned wellFormed nonempty]
  have texts : targetTexts (printedTargets goals).toList = goals.map fun g => g.record.print := by
    rw [printedTargets, String.toList_ofList, targetsReturned wellFormed]
  have interns : ({} : Decoder).Interns := by simp [Decoder.Interns]
  have blocks : ∃ raws after, readGoals (contextBlocks (printedContext goals).toList) 0
      (goals.map fun g => g.record.print) {} = (raws,after) ∧
        List.Forall₂ Reads goals raws ∧ ({} : Decoder).Follows after := by
    rcases eq_or_ne goals [] with rfl | nonempty
    · exact ⟨[],{},rfl,.nil,Decoder.followsSelf _⟩
    · exact goalsReturned wellFormed (by rw [aligned nonempty]; rfl) interns
  obtain ⟨raws, after, read, all, follows⟩ := blocks
  rw [decode, texts, read]
  refine ⟨List.forall₂_map_right_iff.mpr (all.imp fun g raw => goalShows naming),?_⟩
  intro w mem
  exact (follows.remarks w mem).resolve_left List.not_mem_nil

/-! ### Two goals that share an entry -/

def real : Term := .constant "ℝ"

def point (identifier : String) : Term := .localConstant "x" identifier real

def beyond (identifier : String) : Term :=
  let y : Term := .boundVar "y" 0 real
  .bind .existential y (.binary .less (point identifier) y)

def sharedGoals : List PrintedGoal :=
  let target : Tree := ⟨Kind.metavar.tag,[("name","_m")],[]⟩
  [⟨[⟨.object,"x","1",real⟩,⟨.object,"x","2",real⟩,⟨.property,"H","3",beyond "1"⟩],target,beyond "2"⟩,
    ⟨[⟨.object,"x","1",real⟩],target,beyond "1"⟩]

theorem PrintableIn.node {bound : List Nat} {kind : Kind} {info : Info} {children : List Term}
    {type? : Option Term} (other : kind ≠ .rawCode ∧ kind ≠ .boundVar ∧ kind ≠ .localConstant)
    (notBinder : kind.isBinder = false) (plain : info.Plain) (untyped : info.typeText = none)
    (below : ∀ t ∈ children, PrintableIn bound t) : PrintableIn bound ⟨kind,info,children,type?⟩ where
  clean := .node other.1 plain (fun t mem => (below t mem).clean) fun same => absurd same other.2.2
  unmarked :=
    .node (by simp [untyped]) (fun t mem => (below t mem).unmarked) fun same => absurd same other.2.2
  closed := .compound other.2.1 other.2.2 notBinder fun t mem => (below t mem).closed

theorem realPrintable (bound : List Nat) : PrintableIn bound real :=
  .node (by decide) rfl (Term.plainTexts (by decide +kernel) rfl) rfl (by simp)

theorem pointPrintable {identifier : String} (known : identifier = "1" ∨ identifier = "2")
    (bound : List Nat) : PrintableIn bound (point identifier) where
  clean := by
    refine .node (by decide) (Term.plainTexts ?_ rfl) (by simp) (by simpa using (realPrintable []).clean)
    rcases known with rfl | rfl <;> decide +kernel
  unmarked := .node (by simp) (by simp) (by simpa using (realPrintable []).unmarked)
  closed := by
    refine .constant fun own same => ?_
    cases same
    rcases known with rfl | rfl <;> decide +kernel

theorem occurrencePrintable : PrintableIn [0] (.boundVar "y" 0 real) where
  clean := .node (by decide) (Term.plainTexts (by decide +kernel) rfl) (by simp) (by simp)
  unmarked := .node (by simp) (by simp) (by simp)
  closed := .occurrence rfl rfl (by simp)

theorem beyondPrintable {identifier : String} (known : identifier = "1" ∨ identifier = "2") :
    PrintableIn [] (beyond identifier) := by
  have plain : Info.Plain {} := Term.plainTexts rfl rfl
  have type := realPrintable []
  have y := occurrencePrintable
  have body : PrintableIn [0] (.binary .less (point identifier) (.boundVar "y" 0 real)) :=
    .node (by decide) rfl plain rfl (by simpa using ⟨pointPrintable known [0],y⟩)
  have children : ∀ t ∈ [real,.boundVar "y" 0 real,
      .binary .less (point identifier) (.boundVar "y" 0 real)], t.Clean ∧ t.Unmarked := by
    simp only [List.forall_mem_cons]
    exact ⟨⟨type.clean,type.unmarked⟩,⟨y.clean,y.unmarked⟩,⟨body.clean,body.unmarked⟩,by simp⟩
  exact ⟨.node (by decide) plain (fun t mem => (children t mem).1) (by simp),
    .node (by simp) (fun t mem => (children t mem).2) (by simp),
    .binder rfl rfl rfl (by simp) type.closed body.closed⟩

theorem sharedWellFormed : ∀ g ∈ sharedGoals, g.WellFormed := by
  have texts : ∀ text ∈ ["x","H","1","2","3"], ∀ c ∈ text.toList, c ≠ '/' ∧ c ≠ '¿' := by
    simp
  have entry (kind : RecordKind) {name identifier : String} {type : Term}
      (named : name ∈ ["x","H","1","2","3"]) (own : identifier ∈ ["x","H","1","2","3"])
      (printable : PrintableIn [] type)
      (line : '\n' ∉ (PrintedEntry.mk kind name identifier type).record.print) :
      (PrintedEntry.mk kind name identifier type).WellFormed :=
    ⟨texts name named,texts identifier own,printable,line⟩
  have head : Tree.Lexical ⟨Kind.metavar.tag,[("name","_m")],[]⟩ := by
    refine .node (Tree.tagLexical _) ⟨by decide +kernel,?_,trivial⟩ (by simp)
    rw [if_neg (by decide +kernel)]
    simp [Tree.endsValue]
  have unmarked : Tree.Unmarked ⟨Kind.metavar.tag,[("name","_m")],[]⟩ := .node (by simp) (by simp)
  have first : PrintedEntry.WellFormed ⟨.object,"x","1",real⟩ :=
    entry .object (by simp) (by simp) (realPrintable []) (by decide +kernel)
  refine List.forall_mem_cons.mpr ⟨⟨?_,head,unmarked,beyondPrintable (.inr rfl)⟩,?_⟩
  · refine List.forall_mem_cons.mpr ⟨first,List.forall_mem_cons.mpr ⟨?_,?_⟩⟩
    · exact entry .object (by simp) (by simp) (realPrintable []) (by decide +kernel)
    · exact List.forall_mem_singleton.mpr
        (entry .property (by simp) (by simp) (beyondPrintable (.inl rfl)) (by decide +kernel))
  · exact List.forall_mem_singleton.mpr
      ⟨List.forall_mem_singleton.mpr first,head,unmarked,beyondPrintable (.inl rfl)⟩

theorem dumpReadBackShared : (∀ g ∈ sharedGoals, g.WellFormed) ∧
    List.Forall₂ ReadBack sharedGoals
      (decode {} (printedContext sharedGoals) (printedTargets sharedGoals)).state.goals :=
  ⟨sharedWellFormed,(dumpReadBack sharedWellFormed {}).1⟩

end Dump

end ProofTutor
