import ProofTutor.Term.Basic
import ProofTutor.Text.Basic

/-!
The trees of the prover's dumps and their written form

    node     = tag [info] [children]
    info     = "¿[" pair ("/" pair)* "¿]"       pair = key ":" value
    children = "¿(" node ("¿," node)* "¿)"

where blanks may stand before a node and before the end of a list of children; and the tree that a term
is written as. A bound variable is written as a local constant with an identifier of its own, a free
local constant carries its type as a child, and raw code is written under the tag it was read with.
-/

namespace ProofTutor

/-! ### Trees -/

structure Tree where
  tag : String
  info : List (String × String) := []
  children : List Tree := []
  deriving Inhabited, Repr

namespace Tree

def info? (t : Tree) (key : String) : Option String :=
  (t.info.find? (·.1 == key)).map (·.2)

def infoOpen : List Char := ['¿', '[']
def infoClose : List Char := ['¿', ']']
def childrenOpen : List Char := ['¿', '(']
def childrenClose : List Char := ['¿', ')']
def childMark : List Char := ['¿', ',']

def isOpenEnded (key : List Char) : Bool :=
  key == "pp_type".toList

def printPair (pair : String × String) : List Char :=
  pair.1.toList ++ ':' :: pair.2.toList

def printInfo (info : List (String × String)) : List Char :=
  if info.isEmpty then []
  else infoOpen ++ Text.joinWith ['/'] (info.map printPair) ++ infoClose

mutual

def print : Tree → List Char
  | ⟨tag, info, children⟩ => tag.toList ++ printInfo info ++ printChildren children

def printChildren : List Tree → List Char
  | [] => []
  | t :: ts => childrenOpen ++ print t ++ printMore ts ++ childrenClose

def printMore : List Tree → List Char
  | [] => []
  | t :: ts => childMark ++ ' ' :: print t ++ printMore ts

end

end Tree

end ProofTutor

/-! ### The tree of a term -/

namespace ProofTutor.Term

def writtenIdentifier (info : Info) : String :=
  match info.identifier, info.number with
  | some identifier, _ => identifier
  | none, some n => "_bound." ++ toString n
  | none, none => "_bound." ++ info.name.getD "_"

def writtenHead (kind : Kind) (info : Info) : String × Info :=
  match kind, info.name with
  | .boundVar, _ =>
    (Kind.localConstant.tag,
      { name := info.name, identifier := some (writtenIdentifier info), binder := info.binder })
  | .rawCode, some tag => (tag, {})
  | kind, _ => (kind.tag, info)

mutual

def tree (declared : Bool) : Term → Tree
  | ⟨kind, info, children, type?⟩ =>
    let head := writtenHead kind info
    match kind == .localConstant && !declared, type? with
    | true, some type => ⟨head.1, head.2.pairs, [tree false type]⟩
    | _, _ => ⟨head.1, head.2.pairs, trees kind.isBinder 0 children⟩

def trees (inBinder : Bool) (index : Nat) : List Term → List Tree
  | [] => []
  | t :: ts => tree (inBinder && index == 1) t :: trees inBinder (index + 1) ts

end

def written (t : Term) : String :=
  .ofList (t.tree false).print

end ProofTutor.Term
