import ProofTutor.Proofs.Dump.DisplayNames
import ProofTutor.Proofs.Dump.Returned

/-!
Hygiene of decoded goals. In every goal the entries have names of their own, objects come before
propositions, and a binder shows a name that is clear of all it could be confused with. Where the dumps
are consistent, a local constant shows the name of its entry, whether this is the name that was printed
for it or another, and a bound occurrence shows the name of its variable.
-/
namespace ProofTutor.Dump

variable {stray : Prop} {constant : Info → Prop}

/-! ### Goals as they are read -/

def entryInfo (r : Record) : Info :=
  let info := Info.ofPairs r.head.info
  { info with identifier := info.identifier.or info.name }

def declarations (lines : List (List Char)) : List Record :=
  (lines.filterMap Record.read?).filter fun r => (Info.ofPairs r.head.info).name.isSome

theorem declarationsOther {line : List Char}
    (other : ∀ r ∈ Record.read? line, (Info.ofPairs r.head.info).name = none)
    (lines : List (List Char)) : declarations (line :: lines) = declarations lines := by
  cases read : Record.read? line with
  | none => rw [declarations, List.filterMap_cons_none read, declarations]
  | some r =>
    have nameless := other r read
    rw [declarations, List.filterMap_cons_some read, List.filter_cons_of_neg (by simp [nameless]),
      declarations]

theorem declarationsOwn {line : List Char} {r : Record} (read : Record.read? line = some r)
    (named : (Info.ofPairs r.head.info).name ≠ none) (lines : List (List Char)) :
    declarations (line :: lines) = r :: declarations lines := by
  rw [declarations, List.filterMap_cons_some read,
    List.filter_cons_of_pos (by simpa [Option.isSome_iff_ne_none] using named), declarations]

theorem entryNameless {r : Record} (nameless : (Info.ofPairs r.head.info).name = none) (d : Decoder) :
    d.entry? r = (none,d.warn (.namelessEntry r.head.tag)) := by
  rw [Decoder.entry?, nameless]
  rfl

theorem entryNamed {r : Record} (named : (Info.ofPairs r.head.info).name ≠ none) (d : Decoder) :
    let t : Term := ⟨.localConstant,entryInfo r,[],some (Decoder.build [] r.tail d).1⟩
    d.entry? r = (some t,(Decoder.build [] r.tail d).2.intern t) := by
  rw [Decoder.entry?]
  dsimp only
  rw [if_neg (by simpa using named)]
  rfl

structure LegibleRecord (stray : Prop) (known single : Info → Prop) (r : Record) : Prop where
  tail : Decoder.Legible stray single r.tail
  free : ∀ info ∈ r.tail.free [], known info

structure ReadEntry (stray : Prop) (constant : Info → Prop) (r : Record) (t : Term) : Prop where
  info : t.info = entryInfo r
  type : ∃ type, t.type? = some type ∧ Term.Formed stray constant [] type

section Read
variable {known single : Info → Prop}
  (settled : ∀ info info', known info → single info' → info'.identifier = info.identifier →
    constant info')
include settled

theorem tailFormed {r : Record} (legible : LegibleRecord stray known single r) {d : Decoder}
    (interns : d.Interns) (all : d.InternsAll single) :
    Term.Formed stray constant [] (Decoder.build [] r.tail d).1 :=
  Decoder.buildFormed settled r.tail [] [] d legible.tail ⟨by simp,by simp⟩ interns all legible.free

theorem contextFormed {lines : List (List Char)}
    (legible : ∀ r ∈ lines.filterMap Record.read?, LegibleRecord stray known single r)
    (declared : ∀ r ∈ declarations lines, single (entryInfo r)) {d : Decoder} (interns : d.Interns)
    (all : d.InternsAll single) :
    List.Forall₂ (ReadEntry stray constant) (declarations lines) (readContext lines d).1 ∧
      (readContext lines d).2.Interns ∧ (readContext lines d).2.InternsAll single := by
  induction lines generalizing d with
  | nil => exact ⟨.nil,interns,all⟩
  | cons line lines ih =>
    rw [readContext]
    cases read : Record.read? line with
    | none =>
      rw [List.filterMap_cons_none read] at legible
      rw [declarationsOther (by simp [read])] at declared ⊢
      exact ih legible declared interns all
    | some r =>
      rw [List.filterMap_cons_some read] at legible
      obtain ⟨here, others⟩ := List.forall_mem_cons.mp legible
      dsimp only
      by_cases named : (Info.ofPairs r.head.info).name = none
      · rw [declarationsOther (by simpa [read] using named)] at declared ⊢
        rw [entryNameless named]
        exact ih others declared interns all
      · rw [declarationsOwn read named] at declared ⊢
        obtain ⟨own, declared⟩ := List.forall_mem_cons.mp declared
        have built := Decoder.buildFollows r.tail [] d
        rw [entryNamed named]
        obtain ⟨entries, rest⟩ := ih others declared
          ((Decoder.internFollows _ rfl rfl).interns (built.interns interns))
          (Decoder.internSingle (Decoder.buildSingle r.tail here.tail [] d all)
            (show single (Term.mk .localConstant (entryInfo r) [] _).info from own))
        exact ⟨.cons ⟨rfl,_,rfl,tailFormed settled here interns all⟩ entries,rest⟩

end Read

structure GoalRecords where
  context : List Record
  target : Record

def goalRecords (blocks : List (List (List Char))) (index : Nat) :
    List (List Char) → List GoalRecords
  | [] => []
  | text :: texts =>
    match Record.read? text with
    | none => goalRecords blocks (index + 1) texts
    | some target =>
      ⟨(blockAt blocks index).filterMap Record.read?,target⟩ :: goalRecords blocks (index + 1) texts

def GoalRecords.declarations (g : GoalRecords) : List Record :=
  g.context.filter fun r => (Info.ofPairs r.head.info).name.isSome

structure ReadGoal (stray : Prop) (constant : Info → Prop) (g : GoalRecords) (raw : RawGoal) :
    Prop where
  context : List.Forall₂ (ReadEntry stray constant) g.declarations raw.context
  target : Term.Formed stray constant [] raw.target

theorem ReadGoal.formed {g : GoalRecords} {raw : RawGoal} (read : ReadGoal stray constant g raw) :
    FormedGoal stray constant raw where
  target := read.target
  types := matchedAll read.context fun _ _ _ entry => entry.type

theorem goalsFormed {single : Info → Prop} {known constant : GoalRecords → Info → Prop}
    (settled : ∀ g info info', known g info → single info' → info'.identifier = info.identifier →
      constant g info')
    {blocks : List (List (List Char))} {index : Nat} {texts : List (List Char)}
    (legible : ∀ g ∈ goalRecords blocks index texts,
      (∀ r ∈ g.target :: g.context, LegibleRecord stray (known g) single r) ∧
        ∀ r ∈ g.declarations, single (entryInfo r))
    {d : Decoder} (interns : d.Interns) (all : d.InternsAll single) :
    List.Forall₂ (fun g raw => ReadGoal stray (constant g) g raw) (goalRecords blocks index texts)
      (readGoals blocks index texts d).1 := by
  induction texts generalizing index d with
  | nil => exact .nil
  | cons text texts ih =>
    rw [goalRecords] at legible ⊢
    rw [readGoals]
    cases read : Record.read? text with
    | none =>
      simp only [read] at legible ⊢
      exact ih legible interns all
    | some target =>
      simp only [read] at legible ⊢
      obtain ⟨⟨records, declared⟩, others⟩ := List.forall_mem_cons.mp legible
      obtain ⟨own, context⟩ := List.forall_mem_cons.mp records
      obtain ⟨entries, interns, all⟩ := contextFormed (settled _) context declared interns all
      have built := Decoder.buildFollows target.tail [] (readContext (blockAt blocks index) d).2
      exact .cons ⟨entries,tailFormed (settled _) own interns all⟩ (ih others (built.interns interns)
        (Decoder.buildSingle target.tail own.tail [] _ all))

/-! ### Every goal -/

structure Hygienic (g : Goal) : Prop where
  distinct : g.names.Nodup
  parts : g.context = g.objects ++ g.propositions
  displayed : ∀ t ∈ g.terms, Term.Displayed g.names True (fun _ => True) [] t

theorem goalHygienic {raw : RawGoal} (formed : FormedGoal True (fun _ => True) raw) (naming : Naming) :
    Hygienic (finish naming raw) where
  distinct := (namesDistinct naming raw).1
  parts := (finishParts naming raw).2.2
  displayed := goalDisplayed formed fun _ _ => trivial

/-! ### Goals with consistent names -/

def NamedBy (names : String → String) (info : Info) : Prop :=
  ∀ identifier ∈ info.identifier, info.name = some (names identifier)

/-- The records of a goal whose dumps have no tag for bound variables and print every identifier with
one name, where the free local constants are those that the context declares. -/
structure GoalRecords.Consistent (names : String → String) (g : GoalRecords) : Prop where
  tags : ∀ r ∈ g.target :: g.context, ∀ node ∈ r.tail.nodes, node.tag ≠ Kind.boundVar.tag
  named : ∀ r ∈ g.target :: g.context, ∀ node ∈ r.tail.nodes, node.tag = Kind.localConstant.tag →
    NamedBy names (Info.ofPairs node.info)
  declared : ∀ r ∈ g.context, (Info.ofPairs r.head.info).identifier.isSome ∧
    NamedBy names (Info.ofPairs r.head.info)
  distinct : (g.context.map fun r => (Info.ofPairs r.head.info).identifier).Nodup
  free : ∀ r ∈ g.target :: g.context, ∀ info ∈ r.tail.free [], ∃ own ∈ g.context,
    info.identifier = (Info.ofPairs own.head.info).identifier

theorem consistentIff {names : String → String} {g : GoalRecords} : g.Consistent names ↔
    (∀ r ∈ g.target :: g.context, ∀ node ∈ r.tail.nodes, node.tag ≠ Kind.boundVar.tag) ∧
    (∀ r ∈ g.target :: g.context, ∀ node ∈ r.tail.nodes, node.tag = Kind.localConstant.tag →
      NamedBy names (Info.ofPairs node.info)) ∧
    (∀ r ∈ g.context, (Info.ofPairs r.head.info).identifier.isSome ∧
      NamedBy names (Info.ofPairs r.head.info)) ∧
    (g.context.map fun r => (Info.ofPairs r.head.info).identifier).Nodup ∧
    ∀ r ∈ g.target :: g.context, ∀ info ∈ r.tail.free [], ∃ own ∈ g.context,
      info.identifier = (Info.ofPairs own.head.info).identifier :=
  ⟨fun h => ⟨h.tags,h.named,h.declared,h.distinct,h.free⟩,
    fun ⟨tags, named, declared, distinct, free⟩ => ⟨tags,named,declared,distinct,free⟩⟩

instance (names : String → String) (info : Info) : Decidable (NamedBy names info) :=
  inferInstanceAs (Decidable (∀ identifier ∈ info.identifier, info.name = some (names identifier)))

instance (names : String → String) (g : GoalRecords) : Decidable (g.Consistent names) :=
  decidable_of_iff' _ consistentIff

structure ShowsEntry (g : Goal) (info : Info) : Prop where
  declared : ∃ e ∈ g.context, e.identifier?.isSome ∧ info.identifier = e.identifier?
  named : ∀ e ∈ g.context, info.identifier = e.identifier? → info.name = some e.name

def Resolved (g : Goal) : Prop :=
  ∀ t ∈ g.terms, Term.Displayed g.names False (ShowsEntry g) [] t

def KnownIn (g : GoalRecords) (info : Info) : Prop :=
  ∃ own ∈ g.context, info.identifier = (Info.ofPairs own.head.info).identifier

theorem GoalRecords.Consistent.entry {names : String → String} {g : GoalRecords}
    (consistent : g.Consistent names) {r : Record} (mem : r ∈ g.context) :
    ∃ identifier, (Info.ofPairs r.head.info).identifier = some identifier ∧
      (entryInfo r).identifier = some identifier ∧ (entryInfo r).name = some (names identifier) := by
  obtain ⟨identified, named⟩ := consistent.declared r mem
  obtain ⟨identifier, own⟩ := Option.isSome_iff_exists.mp identified
  exact ⟨identifier,own,by simp [entryInfo, own],named identifier own⟩

theorem GoalRecords.Consistent.declarations {names : String → String} {g : GoalRecords}
    (consistent : g.Consistent names) : g.declarations = g.context := by
  refine List.filter_eq_self.mpr fun r mem => ?_
  obtain ⟨identifier, _, _, name⟩ := consistent.entry mem
  exact Option.isSome_iff_exists.mpr ⟨_,name⟩

theorem GoalRecords.Consistent.legible {names : String → String} {g : GoalRecords}
    (consistent : g.Consistent names) :
    (∀ r ∈ g.target :: g.context, LegibleRecord False (KnownIn g) (NamedBy names) r) ∧
      ∀ r ∈ g.declarations, NamedBy names (entryInfo r) := by
  constructor
  · exact fun r mem => ⟨⟨consistent.tags r mem,consistent.named r mem⟩,consistent.free r mem⟩
  · rw [consistent.declarations]
    intro r mem identifier own
    obtain ⟨other, _, same, name⟩ := consistent.entry mem
    cases same.symm.trans own
    exact name

theorem readIdentifiers {names : String → String} {g : GoalRecords}
    (consistent : g.Consistent names) {raw : RawGoal}
    (read : ReadGoal stray constant g raw) :
    (∀ t ∈ raw.context, ∃ identifier, t.identifier? = some identifier ∧
      t.name? = some (names identifier)) ∧
      raw.context.map (·.identifier?) = g.context.map fun r => (Info.ofPairs r.head.info).identifier := by
  have entries := read.context
  rw [consistent.declarations] at entries
  have each : ∀ r ∈ g.context, ∃ identifier, (Info.ofPairs r.head.info).identifier = some identifier ∧
      (entryInfo r).identifier = some identifier ∧ (entryInfo r).name = some (names identifier) :=
    fun r mem => consistent.entry mem
  generalize g.context = records at entries each
  generalize raw.context = ts at entries
  induction entries with
  | nil => exact ⟨by simp,rfl⟩
  | @cons r t records ts here rest ih =>
    obtain ⟨⟨identifier, own, shown, name⟩, others⟩ := List.forall_mem_cons.mp each
    obtain ⟨identified, same⟩ := ih others
    have info := here.info
    refine ⟨List.forall_mem_cons.mpr ⟨⟨identifier,?_,?_⟩,identified⟩,?_⟩
    · rw [Term.identifier?, info, shown]
    · rw [Term.name?, info, name]
    · rw [List.map_cons, List.map_cons, same, own, Term.identifier?, info, shown]

theorem goalResolved {names : String → String} {g : GoalRecords} (consistent : g.Consistent names)
    {raw : RawGoal}
    (read : ReadGoal False (fun info => KnownIn g info ∧ NamedBy names info) g raw) (naming : Naming) :
    Resolved (finish naming raw) := by
  obtain ⟨identified, same⟩ := readIdentifiers consistent read
  have all := orderedPerm raw.context
  have distinct : ((ordered raw.context).map (·.identifier?)).Nodup := by
    rw [(all.map (·.identifier?)).nodup_iff, same]
    exact consistent.distinct
  have keyed : ∀ t ∈ ordered raw.context, t.identifier?.isSome := by
    intro t mem
    obtain ⟨identifier, own, _⟩ := identified t (all.subset mem)
    exact Option.isSome_iff_exists.mpr ⟨identifier,own⟩
  obtain ⟨_, relabelled⟩ := separateRelabels naming [] keyed distinct
  refine goalDisplayed read.formed fun info ⟨⟨r, inside, known⟩, named⟩ => ⟨?_,?_⟩
  · -- the record with its identifier declares an entry
    have listed : info.identifier ∈ raw.context.map (·.identifier?) := by
      rw [same, known]
      exact List.mem_map.mpr ⟨r,inside,rfl⟩
    obtain ⟨t, mem, own⟩ := List.mem_map.mp listed
    obtain ⟨t', shown, related⟩ := matchedPartner relabelled (all.symm.subset mem)
    have identifier : (entryOf naming raw t').identifier? = t.identifier? := related.identifier
    refine ⟨entryOf naming raw t',List.mem_map_of_mem shown,?_,?_⟩
    · rw [identifier]
      exact keyed t (all.symm.subset mem)
    · rw [relabelAllIdentifier, identifier, ← own]
  · -- it was printed with the name of the entry, and both were renamed alike
    intro e mem own
    obtain ⟨t', shown, rfl⟩ := List.mem_map.mp mem
    have partner := matchedAll relabelled
      fun t mem t' related => (⟨t,mem,related⟩ : ∃ t ∈ ordered raw.context, Relabelled _ t t')
    obtain ⟨t, mem, related⟩ := partner t' shown
    obtain ⟨identifier, identified, name⟩ := identified t (all.subset mem)
    have own : info.identifier = t.identifier? := by
      rw [relabelAllIdentifier] at own
      exact own.trans related.identifier
    have shown := named identifier (own.trans identified)
    exact related.name info own (shown.trans name.symm) (by rw [name]; rfl)

/-- The goals of every two dumps are hygienic, and where the dumps are consistent all occurrences show
the names of what they stand for. -/
theorem decodedHygienic (naming : Naming) (context targets : String) :
    (∀ g ∈ (decode naming context targets).state.goals, Hygienic g) ∧
      ∀ names : String → String,
        (∀ g ∈ goalRecords (contextBlocks context.toList) 0 (targetTexts targets.toList),
          g.Consistent names) →
        ∀ g ∈ (decode naming context targets).state.goals, Resolved g := by
  have goals : (decode naming context targets).state.goals =
      (readGoals (contextBlocks context.toList) 0 (targetTexts targets.toList) {}).1.map
        (finish naming) := rfl
  have interns : ({} : Decoder).Interns := by simp [Decoder.Interns]
  have internsAll (single : Info → Prop) : ({} : Decoder).InternsAll single := by simp [Decoder.InternsAll]
  rw [goals]
  constructor
  · have legible (records : GoalRecords) :
        (∀ r ∈ records.target :: records.context,
          LegibleRecord True (fun _ => True) (fun _ => True) r) ∧
            ∀ r ∈ records.declarations, (fun _ => True) (entryInfo r) :=
      ⟨fun r _ => ⟨⟨fun _ _ _ => trivial,fun _ _ _ => trivial⟩,fun _ _ => trivial⟩,fun _ _ => trivial⟩
    have read := @goalsFormed True (fun _ => True) (fun _ _ => True) (fun _ _ => True)
      (fun _ _ _ _ _ _ => trivial) (contextBlocks context.toList) 0 (targetTexts targets.toList)
      (fun records _ => legible records) {} interns (internsAll _)
    intro g mem
    obtain ⟨raw, inside, rfl⟩ := List.mem_map.mp mem
    exact matchedAll read (fun records _ raw read => goalHygienic read.formed naming) raw inside
  · intro names consistent g mem
    obtain ⟨raw, inside, rfl⟩ := List.mem_map.mp mem
    have settled (g : GoalRecords) (info info' : Info) (known : KnownIn g info)
        (named : NamedBy names info') (same : info'.identifier = info.identifier) :
        KnownIn g info' ∧ NamedBy names info' := by
      obtain ⟨r, inside, known⟩ := known
      exact ⟨⟨r,inside,same.trans known⟩,named⟩
    have read := @goalsFormed False (NamedBy names) KnownIn
      (fun g info => KnownIn g info ∧ NamedBy names info) settled
      (contextBlocks context.toList) 0 (targetTexts targets.toList)
      (fun g mem => (consistent g mem).legible) {} interns (internsAll _)
    exact matchedAll read (fun g mem raw read => goalResolved (consistent g mem) read naming) raw inside

/-! ### Printed goals -/

theorem goalRecordsPrinted {goals : List PrintedGoal} (wellFormed : ∀ g ∈ goals, g.WellFormed)
    {blocks : List (List (List Char))} {index : Nat}
    (aligned : blocks.drop index = goals.map (·.lines)) :
    goalRecords blocks index (goals.map fun g => g.record.print) =
      goals.map fun g => ⟨g.context.map (·.record),g.record⟩ := by
  induction goals generalizing index with
  | nil => rfl
  | cons g goals ih =>
    obtain ⟨here, others⟩ := List.forall_mem_cons.mp wellFormed
    obtain ⟨block, next⟩ := alignedCons aligned
    have context : g.lines.filterMap Record.read? = g.context.map (·.record) := by
      rw [PrintedGoal.lines, List.filterMap_map, ← List.filterMap_eq_map]
      exact List.filterMap_congr fun e mem => Record.readPrinted (here.context e mem).printable
    rw [List.map_cons, goalRecords, Record.readPrinted here.printable, block, context, ih others next,
      List.map_cons]

def sharedNames (identifier : String) : String :=
  if identifier = "_bound.0" then "y" else if identifier = "3" then "H" else "x"

theorem sharedConsistent : ∀ g ∈ goalRecords (contextBlocks (printedContext sharedGoals).toList) 0
    (targetTexts (printedTargets sharedGoals).toList), g.Consistent sharedNames := by
  rw [printedContext, printedTargets, String.toList_ofList, String.toList_ofList,
    linesReturned sharedWellFormed (by decide), targetsReturned sharedWellFormed,
    goalRecordsPrinted sharedWellFormed rfl]
  decide +kernel

theorem decodedHygienicShared :
    (∀ g ∈ goalRecords (contextBlocks (printedContext sharedGoals).toList) 0
      (targetTexts (printedTargets sharedGoals).toList), g.Consistent sharedNames) ∧
    ∀ g ∈ (decode {} (printedContext sharedGoals) (printedTargets sharedGoals)).state.goals,
      Resolved g :=
  ⟨sharedConsistent,(decodedHygienic {} _ _).2 _ sharedConsistent⟩

end ProofTutor.Dump
