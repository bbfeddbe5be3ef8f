import ProofTutor.Json.Basic

/-!
Reading JSON text. A text holds one value with blanks around it; arrays and objects nest at most
`maxDepth` deep. Where only some members of an object matter, the others are passed over: they have to
be JSON in form, but their numbers may be of any size, their escapes may name any unit and they may
nest as deep as they like.
-/

namespace ProofTutor.Json

def maxDepth : Nat := 127

def isSpace (c : Char) : Bool :=
  c == ' ' || c == '\t' || c == '\n' || c == '\r'

def unit16? (a b c d : Char) : Option Nat :=
  Text.radixValue? 16 0 [a, b, c, d]

def isHighSurrogate (n : Nat) : Bool := 0xD800 ≤ n && n < 0xDC00

def isLowSurrogate (n : Nat) : Bool := 0xDC00 ≤ n && n < 0xE000

def simpleEscape? : Char → Option Char
  | '"' => some '"'
  | '\\' => some '\\'
  | '/' => some '/'
  | 'b' => some '\x08'
  | 'f' => some '\x0c'
  | 'n' => some '\n'
  | 'r' => some '\r'
  | 't' => some '\t'
  | _ => none

/-- The characters of a string literal up to its closing quote, and the text after the quote.
A character outside the basic plane may be written as a surrogate pair; a surrogate alone is
refused, and so is a bare control character. -/
def stringBody : List Char → Option (List Char × List Char)
  | [] => none
  | '"' :: rest => some ([], rest)
  | '\\' :: 'u' :: a :: b :: c :: d :: rest => do
    let unit ← unit16? a b c d
    if isLowSurrogate unit then none
    else if isHighSurrogate unit then
      match rest with
      | '\\' :: 'u' :: a' :: b' :: c' :: d' :: rest =>
        let low ← unit16? a' b' c' d'
        if isLowSurrogate low then
          let (cs, after) ← stringBody rest
          return (Char.ofNat (0x10000 + (unit - 0xD800) * 0x400 + (low - 0xDC00)) :: cs, after)
        else none
      | _ => none
    else
      let (cs, after) ← stringBody rest
      return (Char.ofNat unit :: cs, after)
  | '\\' :: e :: rest => do
    let c ← simpleEscape? e
    let (cs, after) ← stringBody rest
    return (c :: cs, after)
  | c :: rest =>
    if c = '\\' || c.toNat < 0x20 then none
    else (stringBody rest).map fun (cs, after) => (c :: cs, after)

def number? (text : List Char) : Option (Json × List Char) := do
  let (numeral, rest) ← Numeral.scan? text
  let value ← numeral.value? (text.take (text.length - rest.length))
  return (value, rest)

def literal? (word : String) (value : Json) (text : List Char) : Option (Json × List Char) :=
  match text.take word.length with
  | start => if start = word.toList then some (value, text.drop word.length) else none

mutual

def value? : (fuel depth : Nat) → List Char → Option (Json × List Char)
  | 0, _, _ => none
  | fuel + 1, depth, text =>
    match text.dropWhile isSpace with
    | '"' :: rest => (stringBody rest).map fun (cs, after) => (.str (.ofList cs), after)
    | '[' :: rest =>
      match depth with
      | 0 => none
      | depth + 1 =>
        match rest.dropWhile isSpace with
        | ']' :: after => some (.arr [], after)
        | rest => (items? fuel depth rest).map fun (items, after) => (.arr items, after)
    | '\x7b' :: rest =>
      match depth with
      | 0 => none
      | depth + 1 =>
        match rest.dropWhile isSpace with
        | '\x7d' :: after => some (.obj [], after)
        | rest => (fields? fuel depth rest).map fun (members, after) => (.obj members, after)
    | 'n' :: rest => literal? "null" .null ('n' :: rest)
    | 't' :: rest => literal? "true" (.bool true) ('t' :: rest)
    | 'f' :: rest => literal? "false" (.bool false) ('f' :: rest)
    | rest => number? rest

def items? : (fuel depth : Nat) → List Char → Option (List Json × List Char)
  | 0, _, _ => none
  | fuel + 1, depth, text => do
    let (item, rest) ← value? fuel depth text
    match rest.dropWhile isSpace with
    | ']' :: after => some ([item], after)
    | ',' :: rest => (items? fuel depth rest).map fun (items, after) => (item :: items, after)
    | _ => none

def fields? : (fuel depth : Nat) → List Char → Option (List (String × Json) × List Char)
  | 0, _, _ => none
  | fuel + 1, depth, text =>
    match text.dropWhile isSpace with
    | '"' :: rest => do
      let (name, rest) ← stringBody rest
      match rest.dropWhile isSpace with
      | ':' :: rest =>
        let (item, rest) ← value? fuel depth rest
        match rest.dropWhile isSpace with
        | '\x7d' :: after => some ([(.ofList name, item)], after)
        | ',' :: rest =>
          (fields? fuel depth rest).map fun (members, after) =>
            ((.ofList name, item) :: members, after)
        | _ => none
      | _ => none
    | _ => none

end

def readNext? (text : List Char) : Option (Json × List Char) :=
  value? (2 * text.length + 1) maxDepth text

def read? (text : String) : Option Json := do
  let (json, rest) ← readNext? text.toList
  if rest.all isSpace then some json else none

/-! ### Excerpts -/

def afterString? : List Char → Option (List Char)
  | [] => none
  | '"' :: rest => some rest
  | '\\' :: 'u' :: a :: b :: c :: d :: rest =>
    if (unit16? a b c d).isSome then afterString? rest else none
  | '\\' :: e :: rest => if (simpleEscape? e).isSome then afterString? rest else none
  | c :: rest => if c = '\\' || c.toNat < 0x20 then none else afterString? rest

def afterWord? (word : String) (text : List Char) : Option (List Char) :=
  (literal? word .null text).map (·.2)

mutual

def afterValue? : (fuel : Nat) → List Char → Option (List Char)
  | 0, _ => none
  | fuel + 1, text =>
    match text.dropWhile isSpace with
    | '"' :: rest => afterString? rest
    | '[' :: rest =>
      match rest.dropWhile isSpace with
      | ']' :: after => some after
      | rest => afterItems? fuel rest
    | '\x7b' :: rest =>
      match rest.dropWhile isSpace with
      | '\x7d' :: after => some after
      | rest => afterMembers? fuel rest
    | 'n' :: rest => afterWord? "null" ('n' :: rest)
    | 't' :: rest => afterWord? "true" ('t' :: rest)
    | 'f' :: rest => afterWord? "false" ('f' :: rest)
    | rest => (Numeral.scan? rest).map (·.2)

def afterItems? : (fuel : Nat) → List Char → Option (List Char)
  | 0, _ => none
  | fuel + 1, text => do
    let rest ← afterValue? fuel text
    match rest.dropWhile isSpace with
    | ']' :: after => some after
    | ',' :: rest => afterItems? fuel rest
    | _ => none

def afterMembers? : (fuel : Nat) → List Char → Option (List Char)
  | 0, _ => none
  | fuel + 1, text =>
    match text.dropWhile isSpace with
    | '"' :: rest => do
      let rest ← afterString? rest
      match rest.dropWhile isSpace with
      | ':' :: rest =>
        let rest ← afterValue? fuel rest
        match rest.dropWhile isSpace with
        | '\x7d' :: after => some after
        | ',' :: rest => afterMembers? fuel rest
        | _ => none
      | _ => none
    | _ => none

end

def chosenFields? (names : List String) :
    (fuel : Nat) → List Char → Option (List (String × Json) × List Char)
  | 0, _ => none
  | fuel + 1, text =>
    match text.dropWhile isSpace with
    | '"' :: rest => do
      let (name, rest) ← stringBody rest
      let name := String.ofList name
      match rest.dropWhile isSpace with
      | ':' :: rest =>
        let (chosen, rest) ←
          if name ∈ names then
            (value? fuel (maxDepth - 1) rest).map fun (value, rest) => ([(name, value)], rest)
          else (afterValue? fuel rest).map fun rest => ([], rest)
        match rest.dropWhile isSpace with
        | '\x7d' :: after => some (chosen, after)
        | ',' :: rest =>
          (chosenFields? names fuel rest).map fun (members, after) => (chosen ++ members, after)
        | _ => none
      | _ => none
    | _ => none

def readExcerpt? (names : List String) (text : String) : Option Json :=
  match text.toList.dropWhile isSpace with
  | '\x7b' :: rest => do
    let (members, after) ←
      match rest.dropWhile isSpace with
      | '\x7d' :: after => some ([], after)
      | rest => chosenFields? names (2 * rest.length + 1) rest
    if after.all isSpace then some (.obj members) else none
  | _ => read? text

end ProofTutor.Json
