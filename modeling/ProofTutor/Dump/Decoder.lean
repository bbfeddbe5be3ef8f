import ProofTutor.Dump.Reader
import ProofTutor.Term.Naming

/-!
From trees to terms. A local constant that names the variable of an enclosing binder becomes a
bound variable with the number of that binder; numbers are never used twice in one decoding. Any
other local constant is the same term wherever its identifier occurs.
-/

namespace ProofTutor

structure Decoder where
  interned : List (String × Term) := []
  nextNumber : Nat := 0
  warnings : List Warning := []
  deriving Inhabited

namespace Decoder

structure Variable where
  identifier : String
  number : Nat
  type : Term

def warn (d : Decoder) (w : Warning) : Decoder :=
  { d with warnings := d.warnings ++ [w] }

def intern (d : Decoder) (t : Term) : Decoder :=
  match t.identifier? with
  | some identifier => { d with interned := (identifier, t) :: d.interned }
  | none => d

def interned? (d : Decoder) (identifier : String) : Option Term :=
  (d.interned.find? (·.1 == identifier)).map (·.2)

def checkCount (d : Decoder) (tag : String) (kind : Kind) (found : Nat) : Decoder :=
  match kind.arity? with
  | some expected => if expected = found then d else d.warn (.childCount tag expected found)
  | none => d

def known? (d : Decoder) (scope : List Variable) (info : Info) : Option Term :=
  info.identifier.bind fun identifier =>
    match scope.find? (·.identifier == identifier) with
    | some v => some (.boundVar (info.name.getD "") v.number v.type)
    | none => d.interned? identifier

def firstType? (ts : List Term) : Option Term :=
  (ts.find? (·.hasType)).map (·.type)

def inferredType? (kind : Kind) (children : List Term) : Option Term :=
  match kind with
  | .set | .function | .sequence | .setFamily => some .sort
  | .sum | .difference | .product | .quotient | .power | .minus
  | .union | .inter | .setDifference | .complement => firstType? children
  | .application => children.head?.bind (·.valueType?)
  | kind => Term.fixedType? kind

mutual

def typeNumerals (type : Term) : Term → Term
  | ⟨kind, info, children, some own⟩ => ⟨kind, info, children, some own⟩
  | ⟨kind, info, children, none⟩ =>
    if kind == .number || kind.isArithmetic then
      ⟨kind, info, typeNumeralsIn type children, some type⟩
    else ⟨kind, info, children, none⟩

def typeNumeralsIn (type : Term) : List Term → List Term
  | [] => []
  | t :: ts => typeNumerals type t :: typeNumeralsIn type ts

end

/-- Untyped numerals take the type of the first typed sibling that is neither a numeral nor a
proposition. -/
def typeSiblings (children : List Term) : List Term :=
  match ((children.filter fun t => t.kind != .number && t.hasType).map (·.type)).find?
      (·.kind != .prop) with
  | some type => typeNumeralsIn type children
  | none => children

def compound (kind : Kind) (info : Info) (children : List Term) : Term :=
  let children := typeSiblings children
  { kind, info, children, type? := inferredType? kind children }

def declared (info : Info) (number : Nat) (type : Term) : Term :=
  { kind := .boundVar
    info := { name := some (info.name.getD ""), number := some number, binder := info.binder }
    type? := some type }

def binderType? (kind : Kind) (type body : Term) : Option Term :=
  if kind == .lambda then body.type?.map (Term.functionType type) else some .prop

def enter (info : Info) (number : Nat) (type : Term) (scope : List Variable) : List Variable :=
  match info.identifier with
  | some identifier => ⟨identifier, number, type⟩ :: scope
  | none => scope

mutual

def build (scope : List Variable) : Tree → Decoder → Term × Decoder
  | ⟨tag, pairs, children⟩, d =>
    match Kind.ofTag? tag with
    | none =>
      match buildAll scope children (d.warn (.unknownTag tag)) with
      | (ts, d) => ({ kind := .rawCode, info := .named tag, children := ts }, d)
    | some kind =>
      let d := d.checkCount tag kind children.length
      let info := Info.ofPairs pairs
      if kind == .localConstant then
        match d.known? scope info with
        | some t => (t, d)
        | none =>
          match children with
          | [] => ({ kind, info }, d)
          | typeTree :: _ =>
            match build scope typeTree d with
            | (type, d) =>
              let t : Term := { kind, info, type? := some type }
              (t, d.intern t)
      else
        match kind.isBinder, children with
        | true, [typeTree, variableTree, bodyTree] =>
          match build scope typeTree d with
          | (type, d) =>
            let number := d.nextNumber
            let own := Info.ofPairs variableTree.info
            match build (enter own number type scope) bodyTree { d with nextNumber := number + 1 } with
            | (body, d) =>
              ({ kind, info, children := [type, declared own number type, body]
                 type? := binderType? kind type body }, d)
        | _, children =>
          match buildAll scope children d with
          | (ts, d) => (compound kind info ts, d)

def buildAll (scope : List Variable) : List Tree → Decoder → List Term × Decoder
  | [], d => ([], d)
  | tree :: trees, d =>
    match build scope tree d with
    | (t, d) =>
      match buildAll scope trees d with
      | (ts, d) => (t :: ts, d)

end

def entry? (record : Record) (d : Decoder) : Option Term × Decoder :=
  let info := Info.ofPairs record.head.info
  if info.name.isNone then (none, d.warn (.namelessEntry record.head.tag))
  else
    match build [] record.tail d with
    | (type, d) =>
      let t : Term :=
        { kind := .localConstant, info := { info with identifier := info.identifier.or info.name }
          type? := some type }
      (some t, d.intern t)

end Decoder

inductive TermError where
  | malformed (text : String)
  | trailing (rest : String)
  deriving DecidableEq, Repr

namespace TermError

def message : TermError → String
  | .malformed _ => "malformed tree"
  | .trailing _ => "trailing input after tree"

def sample : TermError → String
  | .malformed text => Warning.sampleOf text
  | .trailing rest => Warning.sampleOf rest

def display (e : TermError) : String :=
  e.message ++ " (near `" ++ e.sample ++ "`)"

end TermError

namespace Term

def read (naming : Naming) (text : String) : Except TermError Term :=
  match Tree.read? (Text.strip text.toList) with
  | none => .error (.malformed text)
  | some (tree, rest) =>
    if rest.all Text.isBlank then
      let t := (Decoder.build [] tree {}).1
      .ok (naming.nameBound t.localNames t)
    else .error (.trailing (.ofList rest))

end Term

end ProofTutor
