import ProofTutor.Term.Basic

/-!
Patterns: terms with numbered holes. Matching fills the holes and pairs the bound variables of the
pattern with those of the term, so that the choice of variables does not matter.
-/

namespace ProofTutor

inductive Pattern where
  | node (kind : Kind) (name : Option String) (children : List Pattern)
  | hole (number : Nat) (type? : Option Pattern)
  | bound (number : Nat)
  | exact (term : Term)
  deriving Inhabited

abbrev Assignment := List (Nat × Term)

namespace Assignment

def find? (a : Assignment) (number : Nat) : Option Term :=
  (List.find? (·.1 == number) a).map (·.2)

def insert (number : Nat) (t : Term) : Assignment → Assignment
  | [] => [(number, t)]
  | (n, u) :: rest =>
    if number < n then (number, t) :: (n, u) :: rest
    else if number = n then (number, t) :: rest
    else (n, u) :: insert number t rest

end Assignment

namespace Pattern

def fill (number : Nat) (t : Term) (a : Assignment) : Option Assignment :=
  match a.find? number with
  | some filled => if filled.alphaEq t then some a else none
  | none => some (a.insert number t)

def pairVariables (kind : Kind) (children : List Pattern) (t : Term) (pairs : List (Nat × Nat)) :
    Option (List (Nat × Nat)) :=
  match children[1]?, t.boundVar? with
  | some (Pattern.bound number), some v =>
    if kind.isBinder then v.number?.map fun n => (number, n) :: pairs else some pairs
  | _, _ => some pairs

mutual

def matchIn (pairs : List (Nat × Nat)) : Pattern → Term → Assignment → Option Assignment
  | .exact expected, t, a => if expected.alphaEq t then some a else none
  | .bound number, t, a =>
    match t.number?, pairs.find? (·.1 == number) with
    | some n, some pair => if t.kind == .boundVar && pair.2 == n then some a else none
    | _, _ => none
  | .hole number none, t, a => fill number t a
  | .hole number (some type), t, a => (matchIn pairs type t.type a).bind (fill number t)
  | .node kind name children, t, a =>
    if t.kind == kind && t.children.length == children.length &&
        (name.isNone || t.name? == name) then
      (pairVariables kind children t pairs).bind fun pairs => matchAll pairs children t.children a
    else none

def matchAll (pairs : List (Nat × Nat)) :
    List Pattern → List Term → Assignment → Option Assignment
  | p :: ps, t :: ts, a => (matchIn pairs p t a).bind (matchAll pairs ps ts)
  | _, _, a => some a

end

def match? (p : Pattern) (t : Term) : Option Assignment :=
  p.matchIn [] t []

def matchInto? (p : Pattern) (t : Term) (a : Assignment) : Option Assignment :=
  p.matchIn [] t a

/-- Whether the pattern matches, and the assignment after the attempt; what was filled before a match
fails is forgotten. -/
def matchInto (p : Pattern) (t : Term) (a : Assignment) : Bool × Assignment :=
  match p.matchInto? t a with
  | some b => (true, b)
  | none => (false, a)

def extendScope (kind : Kind) (index : Nat) (first? : Option Term) (p : Pattern)
    (scope : List (Nat × Term)) : List (Nat × Term) :=
  match p, first? with
  | .bound number, some type => if kind.isBinder && index == 1 then (number, type) :: scope else scope
  | _, _ => scope

mutual

def buildIn (a : Assignment) (scope : List (Nat × Term)) : Pattern → Option Term
  | .exact t => some t
  | .hole number _ => a.find? number
  | .bound number =>
    (scope.find? (·.1 == number)).map fun (_, type) =>
      { kind := .boundVar, info := { number := some number }, type? := some type }
  | .node kind name children =>
    (buildAll a kind 0 none scope children).map fun children =>
      { kind, info := { name }, children, type? := Term.fixedType? kind }

def buildAll (a : Assignment) (kind : Kind) (index : Nat) (first? : Option Term)
    (scope : List (Nat × Term)) : List Pattern → Option (List Term)
  | [] => some []
  | p :: ps => do
    let scope := extendScope kind index first? p scope
    let t ← buildIn a scope p
    let ts ← buildAll a kind (index + 1) (first?.or (some t)) scope ps
    return t :: ts

end

def build? (p : Pattern) (a : Assignment) : Option Term :=
  p.buildIn a []

end Pattern

end ProofTutor
