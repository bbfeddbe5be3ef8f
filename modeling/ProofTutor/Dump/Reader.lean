import ProofTutor.Term.Introspection
import ProofTutor.Text.Basic

/-!
Reading dumps. A reader takes the start of a text and returns what it read with the rest; a part that
may be absent and cannot be read leaves the text as it is. A record is one line of a dump,
`OBJECT[head] ¿= tail` or `PROPERTY[head] ¿= tail`; the separator `¿¿¿` between the parts of a dump
counts only outside every list of children.
-/

namespace ProofTutor

/-! ### Warnings -/

inductive Warning where
  | unknownTag (tag : String)
  | childCount (tag : String) (expected found : Nat)
  | namelessEntry (tag : String)
  | malformedTarget (text : String)
  | malformedEntry (text : String)
  deriving DecidableEq, Repr

namespace Warning

def sampleLength : Nat := 120

def sampleOf (text : String) : String :=
  .ofList (text.toList.take sampleLength)

def sample : Warning → String
  | .unknownTag tag | .childCount tag _ _ | .namelessEntry tag => sampleOf tag
  | .malformedTarget text | .malformedEntry text => sampleOf text

def message : Warning → String
  | .unknownTag tag => "unknown node tag " ++ tag
  | .childCount tag expected found =>
    tag ++ " expects " ++ toString expected ++ " children, found " ++ toString found
  | .namelessEntry _ => "context entry without a name"
  | .malformedTarget _ => "malformed target record"
  | .malformedEntry _ => "malformed context record"

def display (w : Warning) : String :=
  w.message ++ " (near `" ++ w.sample ++ "`)"

end Warning

end ProofTutor

/-! ### Trees -/

namespace ProofTutor.Tree

def isSpace (c : Char) : Bool :=
  c == ' ' || c == '\t' || c == '\r' || c == '\n'

def dropSpaces (cs : List Char) : List Char :=
  cs.dropWhile isSpace

def endsTag (c : Char) : Bool :=
  c == '¿' || c == '[' || c == ']' || Text.isBlank c

def endsKey (c : Char) : Bool :=
  c == ':' || c == '/' || c == '¿'

def endsValue (c : Char) : Bool :=
  c == '/' || c == '¿'

def takeTill (ends : Char → Bool) (cs : List Char) : List Char × List Char :=
  cs.span (!ends ·)

def takeTill1? (ends : Char → Bool) (cs : List Char) : Option (List Char × List Char) :=
  match takeTill ends cs with
  | ([], _) => none
  | parts => some parts

def takeUntil? (mark cs : List Char) : Option (List Char × List Char) :=
  (Text.cut? mark cs).map fun (before, after) => (before, mark ++ after)

def readPair? (cs : List Char) : Option ((String × String) × List Char) := do
  let (key, rest) ← takeTill1? endsKey cs
  let rest ← Text.stripHead? [':'] rest
  let (value, rest) ←
    if isOpenEnded key then takeUntil? infoClose rest else some (takeTill endsValue rest)
  return ((.ofList key, .ofList value), rest)

def readPairs : (fuel : Nat) → List Char → List (String × String) × List Char
  | 0, cs => ([], cs)
  | fuel + 1, cs =>
    match (Text.stripHead? ['/'] cs).bind readPair? with
    | none => ([], cs)
    | some (pair, rest) =>
      match readPairs fuel rest with
      | (pairs, rest) => (pair :: pairs, rest)

def readInfo? (cs : List Char) : Option (List (String × String) × List Char) := do
  let rest ← Text.stripHead? infoOpen cs
  let (pair, rest) ← readPair? rest
  let (pairs, rest) := readPairs rest.length rest
  let rest ← Text.stripHead? infoClose rest
  return (pair :: pairs, rest)

def readInfo (cs : List Char) : List (String × String) × List Char :=
  (readInfo? cs).getD ([], cs)

mutual

def readWithin? : (fuel : Nat) → List Char → Option (Tree × List Char)
  | 0, _ => none
  | fuel + 1, cs => do
    let (tag, rest) ← takeTill1? endsTag (dropSpaces cs)
    let (info, rest) := readInfo rest
    let (children, rest) := (readChildren? fuel rest).getD ([], rest)
    return (⟨.ofList tag, info, children⟩, rest)

def readChildren? : (fuel : Nat) → List Char → Option (List Tree × List Char)
  | 0, _ => none
  | fuel + 1, cs => do
    let rest ← Text.stripHead? childrenOpen cs
    let (child, rest) ← readWithin? fuel rest
    let (children, rest) := readMore fuel rest
    let rest ← Text.stripHead? childrenClose (dropSpaces rest)
    return (child :: children, rest)

/-- Further children, each after its mark. A mark with no tree after it is not read. -/
def readMore : (fuel : Nat) → List Char → List Tree × List Char
  | 0, cs => ([], cs)
  | fuel + 1, cs =>
    match (Text.stripHead? childMark cs).bind (readWithin? fuel) with
    | none => ([], cs)
    | some (child, rest) =>
      match readMore fuel rest with
      | (children, rest) => (child :: children, rest)

end

/-- The tree at the start of a text, and what follows it. Each level of nesting takes two of the
steps that the reader is given and at least two characters of the text. -/
def read? (cs : List Char) : Option (Tree × List Char) :=
  readWithin? (cs.length + 1) cs

end ProofTutor.Tree

/-! ### Records -/

namespace ProofTutor

inductive RecordKind where
  | object | property
  deriving DecidableEq, Repr, Inhabited

structure Record where
  kind : RecordKind
  head : Tree
  tail : Tree
  deriving Inhabited, Repr

namespace Record

def readKind? (cs : List Char) : Option (RecordKind × List Char) :=
  match Text.stripHead? "OBJECT".toList cs with
  | some rest => some (.object, rest)
  | none => (Text.stripHead? "PROPERTY".toList cs).map fun rest => (.property, rest)

def read? (cs : List Char) : Option Record := do
  let (kind, rest) ← readKind? (Tree.dropSpaces cs)
  let rest ← Text.stripHead? ['['] rest
  let (head, rest) ← Tree.read? rest
  let rest ← Text.stripHead? [']'] rest
  let rest ← Text.stripHead? ['¿', '='] (Tree.dropSpaces rest)
  let (tail, rest) ← Tree.read? rest
  if rest.all Text.isBlank then some { kind, head, tail } else none

def extendFirst (c : Char) : List (List Char) → List (List Char)
  | [] => [[c]]
  | part :: parts => (c :: part) :: parts

def startsSeparator : List Char → Bool
  | '¿' :: '¿' :: '¿' :: _ => true
  | _ => false

def depthAfter (depth : Nat) : List Char → Nat
  | '¿' :: '(' :: _ => depth + 1
  | '¿' :: ')' :: _ => depth - 1
  | _ => depth

def splitFrom (skip depth : Nat) : List Char → List (List Char)
  | [] => [[]]
  | c :: cs =>
    match skip with
    | skip + 1 => splitFrom skip depth cs
    | 0 =>
      if depth = 0 ∧ startsSeparator (c :: cs) then [] :: splitFrom 2 0 cs
      else extendFirst c (splitFrom 0 (depthAfter depth (c :: cs)) cs)

def split (cs : List Char) : List (List Char) :=
  splitFrom 0 0 cs

end Record

end ProofTutor
