import ProofTutor.Dump.Decoder
import ProofTutor.Goal.Basic
import ProofTutor.Text.Basic

/-!
The proof state in two dumps: one has the contexts of the goals, the other their targets. A record
that cannot be read is left out with a warning and costs nothing but itself.
-/

namespace ProofTutor

namespace Dump

def contextHeader : List Char := "context:".toList

def targetsHeader : List Char := "targets:".toList

def noGoals : List Char := "no goals".toList

def dropHeader (header text : List Char) : List Char :=
  let text := Text.dropBlanks text
  (Text.stripHead? header text).getD text

def contextBlocks (dump : List Char) : List (List (List Char)) :=
  (Record.split (dropHeader contextHeader dump)).map fun block =>
    ((Text.linesOf block).map Text.strip).filter (· ≠ [])

def targetTexts (dump : List Char) : List (List Char) :=
  let body := Text.strip (dropHeader targetsHeader dump)
  if body.isEmpty || (Text.stripHead? noGoals body).isSome then []
  else ((Record.split body).map Text.strip).filter (· ≠ [])

def blockAt (blocks : List (List (List Char))) (index : Nat) : List (List Char) :=
  (blocks[index]?.or blocks.getLast?).getD []

def readContext : List (List Char) → Decoder → List Term × Decoder
  | [], d => ([], d)
  | line :: lines, d =>
    match Record.read? line with
    | none => readContext lines (d.warn (.malformedEntry (.ofList line)))
    | some record =>
      match d.entry? record with
      | (t?, d) =>
        match readContext lines d with
        | (ts, d) => (t?.toList ++ ts, d)

structure RawGoal where
  context : List Term
  target : Term
  targetText : Option String

/-- The goals of the targets from `index` on. A target that cannot be read has no goal, and its
context is not read either. -/
def readGoals (blocks : List (List (List Char))) (index : Nat) :
    List (List Char) → Decoder → List RawGoal × Decoder
  | [], d => ([], d)
  | text :: texts, d =>
    match Record.read? text with
    | none => readGoals blocks (index + 1) texts (d.warn (.malformedTarget (.ofList text)))
    | some record =>
      match readContext (blockAt blocks index) d with
      | (context, d) =>
        match Decoder.build [] record.tail d with
        | (target, d) =>
          match readGoals blocks (index + 1) texts d with
          | (goals, d) => (⟨context, target, record.head.info? "pp_type"⟩ :: goals, d)

structure Renaming where
  identifier : String
  name : String

def separate (naming : Naming) : (seen : List String) → List Term →
    List Term × List Renaming × List String
  | seen, [] => ([], [], seen)
  | seen, t :: ts =>
    let name := t.name?.getD ""
    if seen.contains name then
      let fresh := naming.allowDoublePrime |> Naming.freshName name seen
      match separate naming (fresh :: seen) ts with
      | (ts, renamings, seen) =>
        ({ t with info := { t.info with name := some fresh } } :: ts,
          (t.identifier?.map fun identifier => ⟨identifier, fresh⟩).toList ++ renamings, seen)
    else
      match separate naming (name :: seen) ts with
      | (ts, renamings, seen) => (t :: ts, renamings, seen)

def renameAll (renamings : List Renaming) (t : Term) : Term :=
  renamings.foldl (fun t r => t.renameLocal r.identifier r.name) t

def onType (f : Term → Term) (t : Term) : Term :=
  { t with type? := t.type?.map f }

def finish (naming : Naming) (raw : RawGoal) : Goal :=
  let isProp (t : Term) := t.type.isProp
  let entries := raw.context.filter (!isProp ·) ++ raw.context.filter isProp
  let (entries, renamings, names) := separate naming [] entries
  let shown (t : Term) := naming.nameBound names (renameAll renamings t)
  { context := entries.map fun t => { term := onType shown t }
    target := shown raw.target
    targetText := raw.targetText }

structure Decoded where
  state : ProofState
  warnings : List Warning

def decode (naming : Naming) (context targets : String) : Decoded :=
  let (goals, d) := readGoals (contextBlocks context.toList) 0 (targetTexts targets.toList) {}
  { state := ⟨goals.map (finish naming)⟩, warnings := d.warnings }

def Decoded.state? (d : Decoded) : Except (List Warning) ProofState :=
  if d.state.isComplete && !d.warnings.isEmpty then .error d.warnings else .ok d.state

end Dump

end ProofTutor
