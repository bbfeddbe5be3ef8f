import ProofTutor.Text.Basic

/-!
Mathematical terms: a kind of a closed set, an info record, ordered children and a type. A binder has
three children, the type of its variable, the variable and the body. Terms are compared up to the
choice of bound variables, and replacement and the instantiation of a binder rest on that.
-/

namespace ProofTutor

/-! ### Kinds -/

inductive Kind where
  | and | or | not | implies | iff | falsity | truth | universal | existential | uniqueExistential
  | equals | notEquals | less | lessOrEqual | greater | greaterOrEqual
  | belongs | included | union | inter | complement | setDifference | image | inverseImage
  | setExtension | emptySet
  | sum | difference | product | quotient | power | minus | number
  | set | function | sequence | setFamily | type | prop
  | lambda | boundVar | localConstant | constant | application
  | metavar | parentheses | rawCode | noType
  deriving DecidableEq, Repr, Inhabited

namespace Kind

def all : List Kind :=
  [.and, .or, .not, .implies, .iff, .falsity, .truth, .universal, .existential, .uniqueExistential,
    .equals, .notEquals, .less, .lessOrEqual, .greater, .greaterOrEqual,
    .belongs, .included, .union, .inter, .complement, .setDifference, .image, .inverseImage,
    .setExtension, .emptySet,
    .sum, .difference, .product, .quotient, .power, .minus, .number,
    .set, .function, .sequence, .setFamily, .type, .prop,
    .lambda, .boundVar, .localConstant, .constant, .application,
    .metavar, .parentheses, .rawCode, .noType]

def tag : Kind → String
  | .and => "PROP_AND"
  | .or => "PROP_OR"
  | .not => "PROP_NOT"
  | .implies => "PROP_IMPLIES"
  | .iff => "PROP_IFF"
  | .falsity => "PROP_FALSE"
  | .truth => "PROP_TRUE"
  | .universal => "QUANT_∀"
  | .existential => "QUANT_∃"
  | .uniqueExistential => "QUANT_∃!"
  | .equals => "PROP_EQUALS"
  | .notEquals => "PROP_EQUALS_NOT"
  | .less => "PROP_<"
  | .lessOrEqual => "PROP_≤"
  | .greater => "PROP_>"
  | .greaterOrEqual => "PROP_≥"
  | .belongs => "PROP_BELONGS"
  | .included => "PROP_INCLUDED"
  | .union => "SET_UNION"
  | .inter => "SET_INTER"
  | .complement => "SET_COMPLEMENT"
  | .setDifference => "SET_DIFF"
  | .image => "SET_IMAGE"
  | .inverseImage => "SET_INVERSE"
  | .setExtension => "SET_EXTENSION"
  | .emptySet => "SET_EMPTY"
  | .sum => "SUM"
  | .difference => "DIFFERENCE"
  | .product => "MULT"
  | .quotient => "DIV"
  | .power => "POWER"
  | .minus => "MINUS"
  | .number => "NUMBER"
  | .set => "SET"
  | .function => "FUNCTION"
  | .sequence => "SEQUENCE"
  | .setFamily => "SET_FAMILY"
  | .type => "TYPE"
  | .prop => "PROP"
  | .lambda => "LAMBDA"
  | .boundVar => "BOUND_VAR"
  | .localConstant => "LOCAL_CONSTANT"
  | .constant => "CONSTANT"
  | .application => "APPLICATION"
  | .metavar => "METAVAR"
  | .parentheses => "GENERIC_PARENTHESES"
  | .rawCode => "RAW_LEAN_CODE"
  | .noType => "NO_MATH_TYPE"

def ofTag? (tag : String) : Option Kind :=
  all.find? fun kind => kind.tag == tag

def arity? : Kind → Option Nat
  | .falsity | .truth | .emptySet | .number | .type | .prop | .boundVar | .constant | .metavar
  | .rawCode | .noType => some 0
  | .not | .complement | .minus | .set | .parentheses => some 1
  | .and | .or | .implies | .iff | .equals | .notEquals | .less | .lessOrEqual | .greater
  | .greaterOrEqual | .belongs | .included | .union | .inter | .setDifference | .image
  | .inverseImage | .sum | .difference | .product | .quotient | .power | .function | .sequence
  | .setFamily | .application => some 2
  | .universal | .existential | .uniqueExistential | .lambda => some 3
  | .setExtension | .localConstant => none

def isQuantifier : Kind → Bool
  | .universal | .existential | .uniqueExistential => true
  | _ => false

def isBinder (kind : Kind) : Bool :=
  kind.isQuantifier || kind == .lambda

def isPropositional : Kind → Bool
  | .and | .or | .not | .implies | .iff | .falsity | .truth | .universal | .existential
  | .uniqueExistential | .equals | .notEquals | .less | .lessOrEqual | .greater | .greaterOrEqual
  | .belongs | .included => true
  | _ => false

def isTypeFormer : Kind → Bool
  | .set | .function | .sequence | .setFamily | .type | .prop => true
  | _ => false

def isArithmetic : Kind → Bool
  | .sum | .difference | .product | .quotient | .power | .minus => true
  | _ => false

theorem allMember (kind : Kind) : kind ∈ all := by
  cases kind <;> decide

theorem tagRead (kind : Kind) : ofTag? kind.tag = some kind := by
  cases kind <;> decide

theorem tagFound {tag : String} {kind : Kind} (found : ofTag? tag = some kind) : kind.tag = tag := by
  simpa using List.find?_some found

end Kind

/-! ### Info records -/

structure Info where
  name : Option String := none
  value : Option String := none
  identifier : Option String := none
  number : Option Nat := none
  binder : Option String := none
  typeText : Option String := none
  deriving DecidableEq, Repr, Inhabited

namespace Info

def named (name : String) : Info :=
  { name := some name }

def isEmpty (info : Info) : Bool :=
  info == {}

def set? (info : Info) (key value : String) : Option Info :=
  match key with
  | "name" => some { info with name := some value }
  | "value" => some { info with value := some value }
  | "identifier" => some { info with identifier := some value }
  | "bound_var_number" =>
    (Text.readNat? Text.word32 value.toList).map fun n => { info with number := some n }
  | "binder_info" => some { info with binder := some value }
  | "pp_type" => some { info with typeText := some value }
  | _ => none

/-- What a list of keys and values sets; pairs that set nothing are skipped and of two values for
one key the later one stays. -/
def ofPairs (pairs : List (String × String)) : Info :=
  pairs.foldl (fun info (key, value) => (info.set? key value).getD info) {}

def pairs (info : Info) : List (String × String) :=
  [("name", info.name), ("value", info.value), ("identifier", info.identifier),
    ("bound_var_number", info.number.map fun n => toString n), ("binder_info", info.binder),
    ("pp_type", info.typeText)].filterMap fun (key, value) => value.map (key, ·)

end Info

/-! ### Terms -/

structure Term where
  kind : Kind
  info : Info := {}
  children : List Term := []
  type? : Option Term := none
  deriving Inhabited, Repr

namespace Term

def leaf (kind : Kind) : Term :=
  { kind }

def prop : Term := leaf .prop

def sort : Term := leaf .type

def untyped : Term := leaf .noType

def type (t : Term) : Term :=
  t.type?.getD untyped

def name? (t : Term) : Option String := t.info.name

def identifier? (t : Term) : Option String := t.info.identifier

def value? (t : Term) : Option String := t.info.value

def number? (t : Term) : Option Nat := t.info.number

def hasType (t : Term) : Bool := t.type?.isSome

def isProp (t : Term) : Bool :=
  t.type.kind == .prop || t.kind.isPropositional

def boundVar? (t : Term) : Option Term :=
  if t.kind.isBinder then t.children[1]? else none

def body? (t : Term) : Option Term :=
  if t.kind.isBinder then t.children[2]? else none

def boundNumber? (t : Term) : Option Nat :=
  t.boundVar?.bind (·.number?)

def constant (name : String) : Term :=
  { kind := .constant, info := .named name }

def typedConstant (name : String) (type : Term) : Term :=
  { kind := .constant, info := .named name, type? := some type }

def number (value : String) (type? : Option Term) : Term :=
  { kind := .number, info := { value := some value }, type? }

def localConstant (name identifier : String) (type : Term) : Term :=
  { kind := .localConstant, info := { name := some name, identifier := some identifier },
    type? := some type }

def boundVar (name : String) (number : Nat) (type : Term) : Term :=
  { kind := .boundVar, info := { name := some name, number := some number }, type? := some type }

def fixedType? (kind : Kind) : Option Term :=
  if kind.isPropositional then some prop else none

def unary (kind : Kind) (a : Term) : Term :=
  { kind, children := [a], type? := fixedType? kind }

def binary (kind : Kind) (a b : Term) : Term :=
  let type? := match fixedType? kind, kind with
    | some type, _ => some type
    | none, .sum | none, .difference | none, .product | none, .quotient | none, .power => a.type?
    | none, _ => none
  { kind, children := [a, b], type? }

def bind (kind : Kind) (v body : Term) : Term :=
  { kind, children := [v.type, v, body], type? := fixedType? kind }

def valueType? (function : Term) : Option Term :=
  match function.type.kind with
  | .function | .sequence => function.type.children[1]?
  | _ => none

def application (function argument : Term) : Term :=
  { kind := .application, children := [function, argument], type? := function.valueType? }

def setOf (element : Term) : Term :=
  { kind := .set, children := [element], type? := some sort }

def functionType (domain codomain : Term) : Term :=
  { kind := .function, children := [domain, codomain], type? := some sort }

mutual

def nodes : Term → List Term
  | ⟨kind, info, children, type?⟩ => ⟨kind, info, children, type?⟩ :: nodesOf children

def nodesOf : List Term → List Term
  | [] => []
  | t :: ts => nodes t ++ nodesOf ts

end

def namesOf (kind : Kind) (t : Term) : List String :=
  (t.nodes.filter (·.kind == kind)).filterMap name?

def localNames (t : Term) : List String :=
  t.namesOf .localConstant

def boundNames (t : Term) : List String :=
  t.namesOf .boundVar

mutual

def renameBound (number : Nat) (name : String) : Term → Term
  | ⟨kind, info, children, type?⟩ =>
    { kind
      info := if kind == .boundVar && info.number == some number then
          { info with name := some name }
        else info
      children := renameBoundIn number name children
      type? }

def renameBoundIn (number : Nat) (name : String) : List Term → List Term
  | [] => []
  | t :: ts => renameBound number name t :: renameBoundIn number name ts

end

mutual

def renameLocal (identifier name : String) : Term → Term
  | ⟨kind, info, children, type?⟩ =>
    { kind
      info := if kind == .localConstant && info.identifier == some identifier then
          { info with name := some name }
        else info
      children := renameLocalIn identifier name children
      type? }

def renameLocalIn (identifier name : String) : List Term → List Term
  | [] => []
  | t :: ts => renameLocal identifier name t :: renameLocalIn identifier name ts

end

/-! ### Bound variables -/

/-- Whether two occurrences of bound variables agree, where `pairs` lists the variables of the
enclosing binders, innermost first. A free variable agrees with itself. -/
def sameBound (pairs : List (Nat × Nat)) (l r : Nat) : Bool :=
  match pairs.find? fun p => p.1 == l || p.2 == r with
  | some p => p.1 == l && p.2 == r
  | none => l == r

def sameLabel (pairs : List (Nat × Nat)) (a b : Term) : Bool :=
  match a.kind with
  | .boundVar =>
    match a.number?, b.number? with
    | some l, some r => sameBound pairs l r
    | _, _ => a.name? == b.name?
  | .localConstant =>
    match a.identifier?, b.identifier? with
    | some l, some r => l == r
    | _, _ => a.name? == b.name?
  | .constant | .rawCode => a.name? == b.name?
  | .metavar => a.identifier? == b.identifier? && a.name? == b.name?
  | .number => a.value? == b.value?
  | _ => true

/-- The pairs under two binders; the variables are paired before all three children. -/
def pairBinders (a b : Term) (pairs : List (Nat × Nat)) : List (Nat × Nat) :=
  match a.boundNumber?, b.boundNumber? with
  | some l, some r => (l, r) :: pairs
  | _, _ => pairs

mutual

def alphaEqIn (pairs : List (Nat × Nat)) : Term → Term → Bool
  | ⟨kind, info, children, type?⟩, b =>
    let a : Term := ⟨kind, info, children, type?⟩
    kind == b.kind && sameLabel pairs a b && alphaEqAll (pairBinders a b pairs) children b.children

def alphaEqAll (pairs : List (Nat × Nat)) : List Term → List Term → Bool
  | [], [] => true
  | a :: as, b :: bs => alphaEqIn pairs a b && alphaEqAll pairs as bs
  | _, _ => false

end

def alphaEq (a b : Term) : Bool :=
  alphaEqIn [] a b

def occursIn (sub t : Term) : Bool :=
  t.nodes.any (·.alphaEq sub)

mutual

def replace (old new : Term) : Term → Term
  | ⟨kind, info, children, type?⟩ =>
    if alphaEq ⟨kind, info, children, type?⟩ old then new
    else ⟨kind, info, replaceIn old new children, type?⟩

def replaceIn (old new : Term) : List Term → List Term
  | [] => []
  | t :: ts => replace old new t :: replaceIn old new ts

end

def instantiate? (binder value : Term) : Option Term := do
  return replace (← binder.boundVar?) value (← binder.body?)

end Term

end ProofTutor
