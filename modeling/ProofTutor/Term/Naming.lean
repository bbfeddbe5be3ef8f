import ProofTutor.Term.Basic
import ProofTutor.Text.Letter
import ProofTutor.Text.Basic

/-!
Display names for bound variables and names for new hypotheses. A name is the first free one in a
fixed sequence of candidates, so it clashes with nothing that is forbidden.
-/

namespace ProofTutor

structure Naming where
  allowDoublePrime : Bool := true
  useProverNames : Bool := true
  deriving DecidableEq, Repr, Inhabited

namespace Naming

def hintsFromTypeName (name : String) : List String :=
  match name.toList with
  | [c] =>
    if Text.isAlphabetic c then
      let first := String.ofList (Text.lowerChar c)
      first :: ["y", "z"].filter (· ≠ first)
    else ["x", "y", "z"]
  | c :: _ :: _ => if Text.isAlphabetic c then [.ofList (Text.lowerChar c)] else ["x", "y", "z"]
  | [] => ["x", "y", "z"]

def typeHints (type : Term) : List String :=
  match type.kind with
  | .set => ["A", "B", "C", "E", "F"]
  | .setFamily => ["E", "F", "G"]
  | .function => ["f", "g", "h"]
  | .sequence => ["u", "v", "w"]
  | .prop => ["P", "Q", "R"]
  | .type => ["X", "Y", "Z"]
  | .constant | .localConstant =>
    match type.name?.getD "" with
    | "ℕ" | "ℤ" | "nat" | "int" => ["n", "m", "p", "q", "k"]
    | "ℝ" | "ℚ" | "real" | "rat" => ["x", "y", "z", "t"]
    | name => hintsFromTypeName name
  | _ => ["x", "y", "z"]

def laterLetter (hint : String) (steps : Nat) : String :=
  match hint.toList with
  | [c] =>
    if c.isAlpha then
      let base := if c.isUpper then 65 else 97
      .ofList [Char.ofNat (base + (c.toNat - base + steps) % 26)]
    else hint
  | _ => hint

def hintAt (hints : List String) (index : Nat) : String :=
  match hints[index]? with
  | some hint => hint
  | none => laterLetter (hints.getLast?.getD "x") (index + 1 - hints.length)

def primes (hint : String) (doublePrime : Bool) : List String :=
  if doublePrime then [hint, hint ++ "'", hint ++ "''"] else [hint, hint ++ "'"]

def numbered (hint : String) (i : Nat) : String :=
  hint ++ "_" ++ toString i

/-- The first free name among the hint, its primes, and the hint with the numbers from 0. One of
the first numbers is free, as the numbered names are more than the forbidden ones. -/
def freshName (hint : String) (forbidden : List String) (doublePrime : Bool) : String :=
  match (primes hint doublePrime).find? (!forbidden.contains ·) with
  | some free => free
  | none =>
    (((List.range (forbidden.length + 1)).map (numbered hint)).find? (!forbidden.contains ·)).getD
      hint

def primedName (name : String) (forbidden : List String) : String :=
  freshName name (name :: forbidden) true

def hypothesis (k : Nat) : String :=
  "H" ++ toString k

def hypothesisName (forbidden : List String) (counter : Nat) : String × Nat :=
  let numbers := (List.range (forbidden.length + 1)).map (counter + 1 + ·)
  let k := (numbers.find? fun k => !forbidden.contains (hypothesis k)).getD (counter + 1)
  (hypothesis k, k)

def isUsable (name : String) : Bool :=
  match name.toList with
  | [] => false
  | c :: cs =>
    c.isAlpha && (c :: cs).all fun c => Text.isAlphanumeric c || c == '_' || c == '\''

def commonInitial (names : List String) : Option String :=
  match names with
  | [] => none
  | first :: _ =>
    match first.toList with
    | [] => none
    | c :: _ => if names.all (·.toList.head? == some c) then some (.ofList [c]) else none

def chooseName (naming : Naming) (type : Term) (proverName : Option String)
    (siblings forbidden : List String) : String :=
  match proverName.filter fun name => naming.useProverNames && isUsable name with
  | some name => freshName name forbidden naming.allowDoublePrime
  | none =>
    let hints := typeHints type
    let hint := match commonInitial siblings with
      | some initial =>
        if hints.head? = some initial then hintAt hints siblings.length else initial
      | none => hintAt hints siblings.length
    freshName hint forbidden naming.allowDoublePrime

structure Scoped where
  type : Term
  name : String

def boundHere? (t : Term) : Option Nat :=
  if t.children.length = 3 then t.boundNumber? else none

def nameOf (naming : Naming) (outer : List String) (scope : List Scoped) (binder : Term) : String :=
  let type := binder.children[0]?.getD Term.untyped
  let body := binder.children[2]?.getD Term.untyped
  let siblings := (scope.filter fun s => s.type.alphaEq type).map (·.name)
  naming.chooseName type (binder.children[1]?.bind (·.name?)) siblings
    (outer ++ scope.map (·.name) ++ body.localNames)

def renamed (renames : List (Nat × String)) (t : Term) : Term :=
  renames.foldl (fun t (number, name) => t.renameBound number name) t

mutual

/-- Names the binders of a term from the outside in. `renames` are the names given to the variables
of the enclosing binders, which the term itself does not show yet. -/
def nameIn (naming : Naming) (outer : List String) (scope : List Scoped)
    (renames : List (Nat × String)) : Term → Term
  | ⟨kind, info, children, type?⟩ =>
    let shown := renamed renames ⟨kind, info, children, type?⟩
    match boundHere? shown with
    | none => ⟨kind, shown.info, nameAll naming outer scope renames children, type?⟩
    | some number =>
      let name := nameOf naming outer scope shown
      let entry : Scoped := ⟨shown.children[0]?.getD Term.untyped, name⟩
      let renames := renames ++ [(number, name)]
      ⟨kind, (renamed renames ⟨kind, info, children, type?⟩).info,
        nameAll naming outer (scope ++ [entry]) renames children, type?⟩

def nameAll (naming : Naming) (outer : List String) (scope : List Scoped)
    (renames : List (Nat × String)) : List Term → List Term
  | [] => []
  | t :: ts => nameIn naming outer scope renames t :: nameAll naming outer scope renames ts

end

def nameBound (naming : Naming) (outer : List String) (t : Term) : Term :=
  nameIn naming outer [] [] t

end Naming

end ProofTutor
