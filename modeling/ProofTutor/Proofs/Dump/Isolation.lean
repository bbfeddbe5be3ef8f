import ProofTutor.Proofs.Dump.Grouping
import ProofTutor.Proofs.Dump.Hygiene

/-!
What a record costs that cannot be read. The goals are made of the records that can be read, and the
others leave a warning each, as long as every target before a separator closes the lists of children
that it opens; a target that leaves one open takes what follows it with it.
-/
namespace ProofTutor

def Warning.isTarget : Warning → Bool
  | .malformedTarget _ => true
  | _ => false

namespace Decoder

/-! ### Decoding apart from warnings -/

def Adds (d e : Decoder) : Prop :=
  ∃ more, e.warnings = d.warnings ++ more ∧ ∀ w ∈ more, w.isTarget = false

theorem addsSelf (d : Decoder) : Adds d d := ⟨[],by simp,by simp⟩

theorem addsTrans {d e f : Decoder} (one : Adds d e) (two : Adds e f) : Adds d f := by
  obtain ⟨first, same, quiet⟩ := one
  obtain ⟨second, same', quiet'⟩ := two
  refine ⟨first ++ second,by rw [same', same, List.append_assoc],?_⟩
  exact fun w mem => (List.mem_append.mp mem).elim (quiet w) (quiet' w)

theorem addsWarn (d : Decoder) {w : Warning} (quiet : w.isTarget = false) : Adds d (d.warn w) :=
  ⟨[w],rfl,by simpa using quiet⟩

theorem addsIntern (d : Decoder) (t : Term) : Adds d (d.intern t) := by
  rw [intern]
  split <;> exact addsSelf _

theorem addsSteps : Steps Adds where
  refl := addsSelf
  trans := addsTrans
  warn d w kept := by
    refine addsWarn d ?_
    cases w <;> first | rfl | cases kept
  intern d t _ _ := addsIntern d t
  number := fun _ => ⟨[],by simp,by simp⟩

theorem addsTargets {d e : Decoder} (adds : Adds d e) :
    e.warnings.filter Warning.isTarget = d.warnings.filter Warning.isTarget := by
  obtain ⟨more, same, quiet⟩ := adds
  have targetless : more.filter Warning.isTarget = [] :=
    List.filter_eq_nil_iff.mpr fun w mem => by simp [quiet w mem]
  rw [same, List.filter_append, targetless, List.append_nil]

structure Same (d d' : Decoder) : Prop where
  interned : d.interned = d'.interned
  next : d.nextNumber = d'.nextNumber

variable {d d' : Decoder}

theorem sameWarn (same : Same d d') (w w' : Warning) : Same (d.warn w) (d'.warn w') :=
  ⟨same.interned,same.next⟩

theorem sameCount (same : Same d d') (tag : String) (kind : Kind) (found : Nat) :
    Same (d.checkCount tag kind found) (d'.checkCount tag kind found) := by
  rw [checkCount, checkCount]
  split
  · split
    · exact same
    · exact sameWarn same _ _
  · exact same

theorem sameIntern (same : Same d d') (t : Term) : Same (d.intern t) (d'.intern t) := by
  rw [intern, intern]
  split
  · exact ⟨congrArg (_ :: ·) same.interned,same.next⟩
  · exact same

theorem sameKnown (same : Same d d') (scope : List Variable) (info : Info) :
    d.known? scope info = d'.known? scope info := by
  simp only [known?, interned?, same.interned]

theorem sameAll {ts : List Tree} (each : ∀ t ∈ ts, ∀ scope d d', Same d d' →
      (build scope t d).1 = (build scope t d').1 ∧ Same (build scope t d).2 (build scope t d').2)
    (scope : List Variable) (same : Same d d') :
    (buildAll scope ts d).1 = (buildAll scope ts d').1 ∧
      Same (buildAll scope ts d).2 (buildAll scope ts d').2 := by
  induction ts generalizing d d' with
  | nil =>
    rw [buildAll, buildAll]
    exact ⟨rfl,same⟩
  | cons t ts ih =>
    obtain ⟨first, rest⟩ := List.forall_mem_cons.mp each
    obtain ⟨value, next⟩ := first scope d d' same
    obtain ⟨values, after⟩ := ih rest next
    rw [buildAll, buildAll]
    exact ⟨congrArg₂ List.cons value values,after⟩

theorem buildSame (tree : Tree) (scope : List Variable) (d d' : Decoder) (same : Same d d') :
    (build scope tree d).1 = (build scope tree d').1 ∧
      Same (build scope tree d).2 (build scope tree d').2 := by
  induction tree using Tree.kindInduction generalizing scope d d' with
  | unknown tag pairs children known ih =>
    obtain ⟨values, after⟩ := sameAll ih scope (sameWarn same (.unknownTag tag) (.unknownTag tag))
    rw [buildUnknown known, buildUnknown known, values]
    exact ⟨rfl,after⟩
  | constant pairs children ih =>
    rw [buildConstant, buildConstant, sameKnown same]
    split
    · exact ⟨rfl,same⟩
    · exact ⟨rfl,same⟩
    · rename_i typeTree others _
      obtain ⟨type, after⟩ := ih typeTree List.mem_cons_self scope d d' same
      rw [type]
      exact ⟨rfl,sameIntern after _⟩
  | binder kind pairs typeTree variableTree bodyTree binds ihType ihBody =>
    cases first : build scope typeTree (d.checkCount kind.tag kind 3) with | mk type typed =>
    cases first' : build scope typeTree (d'.checkCount kind.tag kind 3) with
    | mk type' typed' =>
      have heads := ihType scope _ _ (sameCount same kind.tag kind 3)
      rw [first, first'] at heads
      obtain ⟨rfl, alike⟩ := heads
      cases second : build (enter (Info.ofPairs variableTree.info) typed.nextNumber type scope)
          bodyTree { typed with nextNumber := typed.nextNumber + 1 } with | mk body after =>
      cases second' : build (enter (Info.ofPairs variableTree.info) typed'.nextNumber type scope)
          bodyTree { typed' with nextNumber := typed'.nextNumber + 1 } with
      | mk body' after' =>
        have bodies := ihBody (enter (Info.ofPairs variableTree.info) typed.nextNumber type scope)
          { typed with nextNumber := typed.nextNumber + 1 }
          { typed' with nextNumber := typed'.nextNumber + 1 }
          ⟨alike.interned,congrArg (· + 1) alike.next⟩
        rw [second, alike.next, second'] at bodies
        obtain ⟨rfl, last⟩ := bodies
        rw [buildBinder binds first second, buildBinder binds first' second', alike.next]
        exact ⟨rfl,last⟩
  | compound kind pairs children other free ih =>
    obtain ⟨values, after⟩ := sameAll ih scope (sameCount same kind.tag kind children.length)
    rw [buildCompound other free rfl, buildCompound other free rfl, values]
    exact ⟨rfl,after⟩

theorem entrySame (record : Record) (same : Same d d') :
    (d.entry? record).1 = (d'.entry? record).1 ∧ Same (d.entry? record).2 (d'.entry? record).2 := by
  obtain ⟨type, after⟩ := buildSame record.tail [] d d' same
  by_cases named : (Info.ofPairs record.head.info).name = none
  · rw [Dump.entryNameless named, Dump.entryNameless named]
    exact ⟨rfl,sameWarn same _ _⟩
  · rw [Dump.entryNamed named, Dump.entryNamed named, type]
    exact ⟨rfl,sameIntern after _⟩

theorem entryAdds (record : Record) (d : Decoder) : Adds d (d.entry? record).2 := by
  by_cases named : (Info.ofPairs record.head.info).name = none
  · rw [Dump.entryNameless named]
    exact addsWarn d rfl
  · rw [Dump.entryNamed named]
    exact addsTrans (addsSteps.build record.tail [] d) (addsIntern _ _)

end Decoder

namespace Dump

open Decoder (Same Adds)

/-! ### Goals of records -/

def readEntries : List Record → Decoder → List Term × Decoder
  | [], d => ([],d)
  | r :: rs, d =>
    let (t?, d) := d.entry? r
    let (ts, d) := readEntries rs d
    (t?.toList ++ ts,d)

def readRecords : List GoalRecords → Decoder → List RawGoal
  | [], _ => []
  | g :: gs, d =>
    let (context, d) := readEntries g.context d
    let (target, d) := Decoder.build [] g.target.tail d
    ⟨context,target,g.target.head.info? "pp_type"⟩ :: readRecords gs d

variable {d d' : Decoder}

theorem contextRecords (lines : List (List Char)) (same : Same d d') :
    (readContext lines d).1 = (readEntries (lines.filterMap Record.read?) d').1 ∧
      Same (readContext lines d).2 (readEntries (lines.filterMap Record.read?) d').2 := by
  induction lines generalizing d d' with
  | nil => exact ⟨rfl,same⟩
  | cons line lines ih =>
    cases read : Record.read? line with
    | none =>
      rw [readContext, read, List.filterMap_cons_none read]
      exact ih ⟨same.interned,same.next⟩
    | some r =>
      obtain ⟨entry, next⟩ := Decoder.entrySame r same
      obtain ⟨entries, after⟩ := ih next
      rw [readContext, read, List.filterMap_cons_some read]
      exact ⟨congrArg₂ (·.toList ++ ·) entry entries,after⟩

theorem contextAdds (lines : List (List Char)) (d : Decoder) : Adds d (readContext lines d).2 := by
  induction lines generalizing d with
  | nil => exact Decoder.addsSelf d
  | cons line lines ih =>
    rw [readContext]
    split
    · exact Decoder.addsTrans (Decoder.addsWarn d rfl) (ih _)
    · exact Decoder.addsTrans (Decoder.entryAdds _ d) (ih _)

theorem goalsRecords (blocks : List (List (List Char))) (index : Nat) (texts : List (List Char))
    (same : Same d d') :
    (readGoals blocks index texts d).1 = readRecords (goalRecords blocks index texts) d' := by
  induction texts generalizing index d d' with
  | nil => rfl
  | cons text texts ih =>
    cases read : Record.read? text with
    | none =>
      rw [readGoals, goalRecords]
      simp only [read]
      exact ih (index + 1) ⟨same.interned,same.next⟩
    | some record =>
      obtain ⟨context, next⟩ := contextRecords (blockAt blocks index) same
      obtain ⟨target, after⟩ := Decoder.buildSame record.tail [] _ _ next
      have rest := ih (index + 1) after
      rw [readGoals, goalRecords]
      simp only [read, readRecords]
      rw [context, target, rest]

def malformedTexts (texts : List (List Char)) : List (List Char) :=
  texts.filter fun text => (Record.read? text).isNone

theorem malformedMore {text : List Char} (read : Record.read? text = none)
    (texts : List (List Char)) :
    malformedTexts (text :: texts) = text :: malformedTexts texts :=
  List.filter_cons_of_pos (by simp [read])

theorem malformedSkips {text : List Char} {record : Record} (read : Record.read? text = some record)
    (texts : List (List Char)) : malformedTexts (text :: texts) = malformedTexts texts :=
  List.filter_cons_of_neg (by simp [read])

theorem goalsWarnings (blocks : List (List (List Char))) (index : Nat) (texts : List (List Char))
    (d : Decoder) : (readGoals blocks index texts d).2.warnings.filter Warning.isTarget =
      d.warnings.filter Warning.isTarget ++
        (malformedTexts texts).map fun text => .malformedTarget (.ofList text) := by
  induction texts generalizing index d with
  | nil => simp [readGoals, malformedTexts]
  | cons text texts ih =>
    cases read : Record.read? text with
    | none =>
      rw [readGoals]
      simp only [read]
      rw [ih, malformedMore read, Decoder.warn, List.filter_append, List.append_assoc]
      rfl
    | some record =>
      have adds := Decoder.addsTrans (contextAdds (blockAt blocks index) d)
        (Decoder.addsSteps.build record.tail [] (readContext (blockAt blocks index) d).2)
      rw [readGoals]
      simp only [read]
      rw [ih, Decoder.addsTargets adds, malformedSkips read]

theorem recordsLength (records : List GoalRecords) (d : Decoder) :
    (readRecords records d).length = records.length := by
  induction records generalizing d with
  | nil => rfl
  | cons g gs ih => exact congrArg (· + 1) (ih _)

theorem recordsTargets (blocks : List (List (List Char))) (index : Nat) (texts : List (List Char)) :
    (goalRecords blocks index texts).map (·.target) = texts.filterMap Record.read? := by
  induction texts generalizing index with
  | nil => rfl
  | cons text texts ih =>
    rw [goalRecords]
    cases read : Record.read? text with
    | none =>
      rw [List.filterMap_cons_none read]
      exact ih (index + 1)
    | some record =>
      rw [List.filterMap_cons_some read, ← ih (index + 1)]
      rfl

theorem malformedCount (texts : List (List Char)) :
    (texts.filterMap Record.read?).length + (malformedTexts texts).length = texts.length := by
  induction texts with
  | nil => rfl
  | cons text texts ih =>
    cases read : Record.read? text with
    | none =>
      rw [List.filterMap_cons_none read, malformedMore read, List.length_cons, List.length_cons]
      omega
    | some record =>
      rw [List.filterMap_cons_some read, malformedSkips read, List.length_cons, List.length_cons]
      omega

theorem goalRecordsSame {blocks blocks' : List (List (List Char))}
    (same : blocks.map (·.filterMap Record.read?) = blocks'.map (·.filterMap Record.read?))
    (index : Nat) (texts : List (List Char)) :
    goalRecords blocks index texts = goalRecords blocks' index texts := by
  have context (blocks : List (List (List Char))) (index : Nat) :
      (blockAt blocks index).filterMap Record.read? =
        ((blocks.map (·.filterMap Record.read?))[index]?.or
          (blocks.map (·.filterMap Record.read?)).getLast?).getD [] := by
    rw [blockAt, List.getElem?_map, List.getLast?_map]
    cases blocks[index]? <;> cases blocks.getLast? <;> rfl
  induction texts generalizing index with
  | nil => rfl
  | cons text texts ih =>
    rw [goalRecords, goalRecords, context blocks, context blocks', same]
    split
    · exact ih (index + 1)
    · exact congrArg _ (ih (index + 1))

theorem goalRecordsReadings {blocks : List (List (List Char))} {index : Nat}
    {texts texts' : List (List Char)} (same : texts.map Record.read? = texts'.map Record.read?) :
    goalRecords blocks index texts = goalRecords blocks index texts' := by
  induction texts generalizing index texts' with
  | nil =>
    rw [List.map_nil, eq_comm, List.map_eq_nil_iff] at same
    rw [same]
  | cons text texts ih =>
    cases texts' with
    | nil => cases same
    | cons text' texts' =>
      obtain ⟨here, rest⟩ := List.cons.inj same
      rw [goalRecords, goalRecords, here]
      split
      · exact ih rest
      · exact congrArg _ (ih rest)

/-! ### Targets -/

def Closed (text : List Char) : Prop :=
  Record.depthThrough 0 text = 0

def Malformed (text : List Char) : Prop :=
  Record.read? (Text.strip text) = none

instance (text : List Char) : Decidable (Closed text) :=
  inferInstanceAs (Decidable (Record.depthThrough 0 text = 0))

instance (text : List Char) : Decidable (Malformed text) :=
  decidable_of_iff ((Record.read? (Text.strip text)).isNone = true) Option.isNone_iff_eq_none

def decodedTargets (naming : Naming) (context : String) (texts : List (List Char)) : Decoded :=
  decode naming context (.ofList (printTargets texts))

structure Isolated (naming : Naming) (context : String) (texts : List (List Char)) : Prop where
  count : (decodedTargets naming context texts).state.goals.length =
    (texts.filterMap fun text => Record.read? (Text.strip text)).length
  goals : (decodedTargets naming context texts).state.goals =
    (readRecords (goalRecords (contextBlocks context.toList) 0 (texts.map Text.strip)) {}).map
      (finish naming)
  warnings : (decodedTargets naming context texts).warnings.filter Warning.isTarget =
    (malformedTexts (texts.map Text.strip)).map fun text => .malformedTarget (.ofList text)

theorem decodedGoals (naming : Naming) (context targets : String) :
    (decode naming context targets).state.goals =
      (readRecords (goalRecords (contextBlocks context.toList) 0 (targetTexts targets.toList)) {}).map
        (finish naming) :=
  congrArg (·.map (finish naming))
    (goalsRecords (contextBlocks context.toList) 0 (targetTexts targets.toList) ⟨rfl,rfl⟩)

theorem decodedWarnings (naming : Naming) (context targets : String) :
    (decode naming context targets).warnings.filter Warning.isTarget =
      (malformedTexts (targetTexts targets.toList)).map fun text =>
        .malformedTarget (.ofList text) :=
  goalsWarnings (contextBlocks context.toList) 0 (targetTexts targets.toList) {}

theorem decodedCount (naming : Naming) (context targets : String) :
    (decode naming context targets).state.goals.length =
      ((targetTexts targets.toList).filterMap Record.read?).length := by
  rw [decodedGoals, List.length_map, recordsLength, ← recordsTargets (contextBlocks context.toList) 0,
    List.length_map]

theorem isolatedIff (naming : Naming) (context : String) {texts : List (List Char)}
    (targets : Targets texts) :
    Isolated naming context texts ↔ ∀ text ∈ texts.dropLast, Closed text := by
  have found : targetTexts (String.ofList (printTargets texts)).toList =
      (Record.grouped 0 texts).map Text.strip := by
    rw [String.toList_ofList, targetsGrouped targets]
  have read : (texts.filterMap fun text => Record.read? (Text.strip text)) =
      (texts.map Text.strip).filterMap Record.read? := by
    rw [List.filterMap_map]
    rfl
  constructor
  · intro isolated
    have all := malformedCount (texts.map Text.strip)
    have lost := malformedCount ((Record.grouped 0 texts).map Text.strip)
    have count := isolated.count
    have warnings := congrArg List.length isolated.warnings
    rw [decodedTargets, decodedCount, found, read] at count
    rw [decodedTargets, decodedWarnings, found, List.length_map, List.length_map] at warnings
    refine Record.groupedOpen ?_
    simp only [List.length_map] at all lost
    omega
  · intro closed
    rw [Record.groupedClosed closed] at found
    refine ⟨?_,?_,?_⟩
    · rw [decodedTargets, decodedCount, found, read]
    · rw [decodedTargets, decodedGoals, found]
    · rw [decodedTargets, decodedWarnings, found]

theorem sameState {s s' : ProofState} (goals : s.goals = s'.goals) : s = s' := by
  cases s
  cases s'
  exact congrArg ProofState.mk goals

theorem malformedReplaced (naming : Naming) (context : String)
    {before after : List (List Char)} {one two : List Char}
    (targets : Targets (before ++ one :: after)) (targets' : Targets (before ++ two :: after))
    (malformed : Malformed one) (malformed' : Malformed two)
    (closed : ∀ text ∈ (before ++ one :: after).dropLast, Closed text)
    (closed' : ∀ text ∈ (before ++ two :: after).dropLast, Closed text) :
    (decodedTargets naming context (before ++ one :: after)).state =
      (decodedTargets naming context (before ++ two :: after)).state := by
  have goals := ((isolatedIff naming context targets).mpr closed).goals
  have goals' := ((isolatedIff naming context targets').mpr closed').goals
  have readings : ((before ++ one :: after).map Text.strip).map Record.read? =
      ((before ++ two :: after).map Text.strip).map Record.read? := by
    simp only [List.map_append, List.map_cons]
    rw [malformed, malformed']
  exact sameState (by rw [goals, goals', goalRecordsReadings readings])

/-! ### Contexts -/

def decodedBlocks (naming : Naming) (blocks : List (List (List Char))) (targets : String) : Decoded :=
  decode naming (.ofList (printBlocks blocks)) targets

theorem keptRecords (block : List (List Char)) :
    (((block.map Text.strip).filter (· ≠ [])).filterMap Record.read?) =
      block.filterMap fun line => Record.read? (Text.strip line) := by
  have blank : Record.read? [] = none := rfl
  rw [List.filterMap_filter, List.filterMap_map]
  refine List.filterMap_congr fun line _ => ?_
  by_cases empty : Text.strip line = []
  · simp [empty, blank]
  · simp [empty]

theorem blocksRecords {blocks : List (List (List Char))} (nonempty : blocks ≠ [])
    (lines : ∀ block ∈ blocks, Lines block)
    (closed : ∀ block ∈ blocks.dropLast, ∀ line ∈ block, Closed line) :
    (contextBlocks (printBlocks blocks)).map (·.filterMap Record.read?) =
      blocks.map fun block => block.filterMap fun line => Record.read? (Text.strip line) := by
  rw [blocksClosed nonempty lines closed, List.map_map]
  exact List.map_congr_left fun block _ => keptRecords block

theorem malformedLine (naming : Naming) (targets : String) {front back : List (List (List Char))}
    {before after : List (List Char)} {line : List Char}
    (lines : ∀ block ∈ front ++ (before ++ line :: after) :: back, Lines block)
    (closed : ∀ block ∈ (front ++ (before ++ line :: after) :: back).dropLast, ∀ text ∈ block,
      Closed text)
    (malformed : Malformed line) :
    (decodedBlocks naming (front ++ (before ++ line :: after) :: back) targets).state =
      (decodedBlocks naming (front ++ (before ++ after) :: back) targets).state := by
  have within : ∀ text ∈ before ++ after, text ∈ before ++ line :: after := by
    intro text mem
    rcases List.mem_append.mp mem with first | second
    · exact List.mem_append_left _ first
    · exact List.mem_append_right _ (List.mem_cons_of_mem line second)
  have lines' : ∀ block ∈ front ++ (before ++ after) :: back, Lines block := by
    simp only [List.forall_mem_append, List.forall_mem_cons] at lines ⊢
    exact ⟨lines.1,fun text mem => lines.2.1 text (within text mem),lines.2.2⟩
  have closed' : ∀ block ∈ (front ++ (before ++ after) :: back).dropLast, ∀ text ∈ block,
      Closed text := by
    cases back with
    | nil => simpa using closed
    | cons next back =>
      rw [List.dropLast_append_cons, List.dropLast_cons_cons] at closed ⊢
      simp only [List.forall_mem_append, List.forall_mem_cons] at closed ⊢
      exact ⟨closed.1,⟨closed.2.1.1,closed.2.1.2.2⟩,closed.2.2⟩
  have block : ((before ++ line :: after).filterMap fun line => Record.read? (Text.strip line)) =
      (before ++ after).filterMap fun line => Record.read? (Text.strip line) := by
    have unread : Record.read? (Text.strip line) = none := malformed
    simp only [List.filterMap_append, List.filterMap_cons, unread]
  have records : (contextBlocks (printBlocks (front ++ (before ++ line :: after) :: back))).map
      (·.filterMap Record.read?) =
        (contextBlocks (printBlocks (front ++ (before ++ after) :: back))).map
          (·.filterMap Record.read?) := by
    rw [blocksRecords (by simp) lines closed, blocksRecords (by simp) lines' closed']
    simp only [List.map_append, List.map_cons, block]
  refine sameState ?_
  rw [decodedBlocks, decodedBlocks, decodedGoals, decodedGoals, String.toList_ofList,
    String.toList_ofList, goalRecordsSame records]

/-! ### Records that cannot be read -/

/-- A record costs only itself as long as the texts before a separator close their lists of children:
so it is with every malformed target, which can also be any other, and with every malformed line of a
context, which can also be left out. Targets of which one leaves a list open are not isolated. -/
structure CostsItself (naming : Naming) : Prop where
  targets : ∀ {context : String} {texts : List (List Char)}, Targets texts →
    (Isolated naming context texts ↔ ∀ text ∈ texts.dropLast, Closed text)
  replaced : ∀ {context : String} {before after : List (List Char)} {one two : List Char},
    Targets (before ++ one :: after) → Targets (before ++ two :: after) →
      Malformed one → Malformed two →
        (∀ text ∈ (before ++ one :: after).dropLast, Closed text) →
          (∀ text ∈ (before ++ two :: after).dropLast, Closed text) →
            (decodedTargets naming context (before ++ one :: after)).state =
              (decodedTargets naming context (before ++ two :: after)).state
  lines : ∀ {targets : String} {front back : List (List (List Char))}
    {before after : List (List Char)} {line : List Char},
    (∀ block ∈ front ++ (before ++ line :: after) :: back, Lines block) →
      (∀ block ∈ (front ++ (before ++ line :: after) :: back).dropLast, ∀ text ∈ block,
        Closed text) →
        Malformed line →
          (decodedBlocks naming (front ++ (before ++ line :: after) :: back) targets).state =
            (decodedBlocks naming (front ++ (before ++ after) :: back) targets).state

theorem recordsCostThemselves (naming : Naming) : CostsItself naming where
  targets := isolatedIff naming _
  replaced := malformedReplaced naming _
  lines := malformedLine naming _

def trueTarget : List Char := "PROPERTY[METAVAR¿[name:_m¿]] ¿= PROP_TRUE".toList

def openTarget : List Char := "PROPERTY[METAVAR¿[name:_m¿]] ¿= PROP_AND¿(".toList

theorem recordsCostThemselvesOfGarbage : Targets ["garbage".toList,trueTarget] ∧
    Malformed "garbage".toList ∧ Isolated {} "context:" ["garbage".toList,trueTarget] := by
  have targets : Targets ["garbage".toList,trueTarget] :=
    ⟨by decide,by decide +kernel,by decide +kernel,by decide +kernel⟩
  exact ⟨targets,by decide +kernel,
    ((recordsCostThemselves {}).targets targets).mpr (by decide +kernel)⟩

theorem openTargetTakesNext : ¬∀ naming context texts, Targets texts →
    Isolated naming context texts := by
  intro claimed
  have targets : Targets [openTarget,trueTarget] :=
    ⟨by decide,by decide +kernel,by decide +kernel,by decide +kernel⟩
  have closed := (isolatedIff {} "context:" targets).mp (claimed {} "context:" _ targets)
  have opens : Record.depthThrough 0 openTarget = 1 := by decide +kernel
  cases opens.symm.trans (closed openTarget (by simp))

end Dump
end ProofTutor
