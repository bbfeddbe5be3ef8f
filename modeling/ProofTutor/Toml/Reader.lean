import ProofTutor.Json.Reader
import ProofTutor.Toml.Basic

/-!
Reading TOML documents, version 1.0. Arrays and inline tables nest at most `maxDepth` deep, and keys
have at most as many parts. Reading gives `none` exactly when the text is no document.
-/

namespace ProofTutor.Toml

def maxDepth : Nat := 79

def isSpace (c : Char) : Bool :=
  c == ' ' || c == '\t'

def skipSpaces (text : List Char) : List Char :=
  text.dropWhile isSpace

def isPlain (c : Char) : Bool :=
  c == '\t' || (0x20 ≤ c.toNat && c.toNat != 0x7F)

def newline? : List Char → Option (List Char)
  | '\n' :: rest => some rest
  | '\r' :: '\n' :: rest => some rest
  | _ => none

def skipComment : List Char → List Char
  | '#' :: rest => rest.dropWhile isPlain
  | text => text

def lineEnd? (text : List Char) : Option (List Char) :=
  match skipComment (skipSpaces text) with
  | [] => some []
  | rest => newline? rest

def skipLines : (fuel : Nat) → List Char → List Char
  | 0, text => text
  | fuel + 1, text =>
    match newline? (skipComment (skipSpaces text)) with
    | some rest => skipLines fuel rest
    | none => skipSpaces text

def scalar? (digits : List Char) : Option Char := do
  let n ← Text.radixValue? 16 0 digits
  if n.isValidChar then some (Char.ofNat n) else none

def escape? : List Char → Option (Char × List Char)
  | 'b' :: rest => some ('\x08', rest)
  | 't' :: rest => some ('\t', rest)
  | 'n' :: rest => some ('\n', rest)
  | 'f' :: rest => some ('\x0c', rest)
  | 'r' :: rest => some ('\r', rest)
  | '"' :: rest => some ('"', rest)
  | '\\' :: rest => some ('\\', rest)
  | 'u' :: rest => if rest.length < 4 then none else (scalar? (rest.take 4)).map (·, rest.drop 4)
  | 'U' :: rest => if rest.length < 8 then none else (scalar? (rest.take 8)).map (·, rest.drop 8)
  | _ => none

def basicBody? : (fuel : Nat) → List Char → Option (List Char × List Char)
  | 0, _ => none
  | _ + 1, [] => none
  | _ + 1, '"' :: rest => some ([], rest)
  | fuel + 1, '\\' :: rest => do
    let (c, rest) ← escape? rest
    let (cs, after) ← basicBody? fuel rest
    return (c :: cs, after)
  | fuel + 1, c :: rest =>
    if isPlain c then (basicBody? fuel rest).map fun (cs, after) => (c :: cs, after) else none

def literalBody? : List Char → Option (List Char × List Char)
  | [] => none
  | '\'' :: rest => some ([], rest)
  | c :: rest =>
    if isPlain c then (literalBody? rest).map fun (cs, after) => (c :: cs, after) else none

def skipBlankLines : (fuel : Nat) → List Char → List Char
  | 0, text => text
  | fuel + 1, text =>
    match newline? (skipSpaces text) with
    | some rest => skipBlankLines fuel rest
    | none => skipSpaces text

def continuation? (text : List Char) : Option (List Char) :=
  (newline? (skipSpaces text)).map fun rest => skipBlankLines (rest.length + 1) rest

/-- The rest of a string between triple quotes. Up to two quotes may stand right before the closing
three; only in double quotes do backslashes mean anything. -/
def multilineBody? (quote : Char) : (fuel : Nat) → List Char → Option (List Char × List Char)
  | 0, _ => none
  | _ + 1, [] => none
  | fuel + 1, c :: rest =>
    if c == quote && (c :: rest).take 3 == [quote, quote, quote] then
      let run := ((c :: rest).takeWhile (· == quote)).length
      let extra := min (run - 3) 2
      some (List.replicate extra quote, (c :: rest).drop (extra + 3))
    else if c == '\\' && quote == '"' then
      match continuation? rest with
      | some rest => multilineBody? quote fuel rest
      | none => do
        let (c, rest) ← escape? rest
        let (cs, after) ← multilineBody? quote fuel rest
        return (c :: cs, after)
    else
      match newline? (c :: rest) with
      | some rest => (multilineBody? quote fuel rest).map fun (cs, after) => ('\n' :: cs, after)
      | none =>
        if isPlain c then
          (multilineBody? quote fuel rest).map fun (cs, after) => (c :: cs, after)
        else none

def multiline? (quote : Char) (text : List Char) : Option (List Char × List Char) :=
  multilineBody? quote (text.length + 1) ((newline? text).getD text)

def string? : List Char → Option (List Char × List Char)
  | '"' :: '"' :: '"' :: rest => multiline? '"' rest
  | '\'' :: '\'' :: '\'' :: rest => multiline? '\'' rest
  | '"' :: rest => basicBody? (rest.length + 1) rest
  | '\'' :: rest => literalBody? rest
  | _ => none

def isBare (c : Char) : Bool :=
  c.isAlphanum || c == '_' || c == '-'

def simpleKey? : List Char → Option (String × List Char)
  | '"' :: rest => (basicBody? (rest.length + 1) rest).map fun (cs, after) => (.ofList cs, after)
  | '\'' :: rest => (literalBody? rest).map fun (cs, after) => (.ofList cs, after)
  | text =>
    match text.span isBare with
    | ([], _) => none
    | (key, after) => some (.ofList key, after)

def key? : (fuel : Nat) → List Char → Option ((List String × String) × List Char)
  | 0, _ => none
  | fuel + 1, text => do
    let (name, rest) ← simpleKey? (skipSpaces text)
    match skipSpaces rest with
    | '.' :: rest =>
      let ((path, last), after) ← key? fuel rest
      return ((name :: path, last), after)
    | after => return (([], name), after)

def digits (isDigit : Char → Bool) : List Char → List Char × List Char
  | [] => ([], [])
  | '_' :: d :: rest =>
    if isDigit d then
      match digits isDigit rest with
      | (ds, after) => (d :: ds, after)
    else ([], '_' :: d :: rest)
  | c :: rest =>
    if isDigit c then
      match digits isDigit rest with
      | (ds, after) => (c :: ds, after)
    else ([], c :: rest)

def digits? (isDigit : Char → Bool) (text : List Char) : Option (List Char × List Char) :=
  match text with
  | c :: _ => if isDigit c then some (digits isDigit text) else none
  | [] => none

def radixInt? (radix : Nat) (text : List Char) : Option (Toml × List Char) := do
  let (ds, after) ← digits? (fun c => (Text.digitIn? radix c).isSome) text
  let value ← Text.radixValue? radix 0 ds
  if value < 0x8000000000000000 then some (.int value, after) else none

def sign : List Char → Bool × List Char
  | '+' :: rest => (false, rest)
  | '-' :: rest => (true, rest)
  | text => (false, text)

def exponent? (text : List Char) : Option (Option Int × List Char) :=
  match text with
  | 'e' :: rest | 'E' :: rest => do
    let (negative, rest) := sign rest
    let (ds, after) ← digits? Char.isDigit rest
    let value : Int := (Text.digitsValue? 0 ds).getD 0
    return (some (if negative then -value else value), after)
  | _ => some (none, text)

def fraction? : List Char → Option (List Char × List Char)
  | '.' :: rest => digits? Char.isDigit rest
  | text => some ([], text)

def exceedsDouble (digits : List Char) (exponent : Int) : Bool :=
  let digits := digits.dropWhile (· == '0')
  let magnitude := (digits.length : Int) + exponent
  if digits.isEmpty then false
  else if magnitude < 309 then false
  else if 309 < magnitude then true
  else
    let value := (Text.digitsValue? 0 digits).getD 0
    if 0 ≤ exponent then Json.infinityBound ≤ value * Nat.pow 10 exponent.toNat
    else Json.infinityBound * Nat.pow 10 (-exponent).toNat ≤ value

def decimal? (text : List Char) : Option (Toml × List Char) := do
  let (negative, rest) := sign text
  let (whole, rest) ← digits? Char.isDigit rest
  if whole.head? = some '0' ∧ whole.length ≠ 1 then none
  let (fraction, rest) ← fraction? rest
  let (exponent, rest) ← exponent? rest
  if fraction = [] ∧ exponent = none then
    let value : Int := (Text.digitsValue? 0 whole).getD 0
    let value := if negative then -value else value
    if -0x8000000000000000 ≤ value ∧ value < 0x8000000000000000 then some (.int value, rest) else none
  else if !negative && exceedsDouble (whole ++ fraction) (exponent.getD 0 - fraction.length) then
    none
  else some (.float (.ofList (text.take (text.length - rest.length))), rest)

def special? (text : List Char) : Option (Toml × List Char) :=
  match (sign text).2 with
  | 'i' :: 'n' :: 'f' :: rest => some (.float "inf", rest)
  | 'n' :: 'a' :: 'n' :: rest => some (.float "nan", rest)
  | _ => none

def fixed? (count low high : Nat) (text : List Char) : Option (Nat × List Char) := do
  if text.length < count then none
  let value ← Text.digitsValue? 0 (text.take count)
  if low ≤ value ∧ value ≤ high then some (value, text.drop count) else none

def after? (mark : Char) : List Char → Option (List Char)
  | c :: rest => if c = mark then some rest else none
  | [] => none

def daysIn (year month : Nat) : Nat :=
  if month = 2 then
    if (year % 4 = 0 ∧ year % 100 ≠ 0) ∨ year % 400 = 0 then 29 else 28
  else if month ∈ [4, 6, 9, 11] then 30
  else 31

def date? (text : List Char) : Option (List Char) := do
  let (year, rest) ← fixed? 4 0 9999 text
  let (month, rest) ← fixed? 2 1 12 (← after? '-' rest)
  let (_, rest) ← fixed? 2 1 (daysIn year month) (← after? '-' rest)
  return rest

def time? (text : List Char) : Option (List Char) := do
  let (_, rest) ← fixed? 2 0 23 text
  let (_, rest) ← fixed? 2 0 59 (← after? ':' rest)
  let (_, rest) ← fixed? 2 0 60 (← after? ':' rest)
  match rest with
  | '.' :: d :: after => return if d.isDigit then after.dropWhile Char.isDigit else rest
  | _ => return rest

def skipOffset (text : List Char) : List Char :=
  match text with
  | 'Z' :: rest | 'z' :: rest => rest
  | '+' :: rest | '-' :: rest =>
    let offset? := do
      let (_, rest) ← fixed? 2 0 23 rest
      let (_, rest) ← fixed? 2 0 59 (← after? ':' rest)
      return rest
    offset?.getD text
  | _ => text

def datetimeEnd? (text : List Char) : Option (List Char) :=
  match date? text with
  | none => time? text
  | some rest =>
    match rest with
    | 'T' :: after | 't' :: after | ' ' :: after =>
      match time? after with
      | some rest => some (skipOffset rest)
      | none => some rest
    | _ => some rest

def datetime? (text : List Char) : Option (Toml × List Char) :=
  (datetimeEnd? text).map fun rest =>
    (.datetime (.ofList (text.take (text.length - rest.length))), rest)

def simple? (text : List Char) : Option (Toml × List Char) :=
  match text with
  | '"' :: _ | '\'' :: _ => (string? text).map fun (cs, after) => (.str (.ofList cs), after)
  | 't' :: 'r' :: 'u' :: 'e' :: rest => some (.bool true, rest)
  | 'f' :: 'a' :: 'l' :: 's' :: 'e' :: rest => some (.bool false, rest)
  | '0' :: 'x' :: rest => radixInt? 16 rest
  | '0' :: 'o' :: rest => radixInt? 8 rest
  | '0' :: 'b' :: rest => radixInt? 2 rest
  | _ => (datetime? text <|> special? text) <|> decimal? text

mutual

def value? : (fuel depth : Nat) → List Char → Option (Toml × List Char)
  | 0, _, _ => none
  | fuel + 1, depth, text =>
    match text with
    | '[' :: rest =>
      match depth with
      | 0 => none
      | depth + 1 => (items? fuel depth rest).map fun (items, after) => (.arr items, after)
    | '\x7b' :: rest =>
      match depth with
      | 0 => none
      | depth + 1 =>
        match skipSpaces rest with
        | '\x7d' :: after => some (.table [], after)
        | rest =>
          (pairs? fuel depth [] rest).map fun (members, after) =>
            (.table (finishMembers members), after)
    | _ => simple? text

def items? : (fuel depth : Nat) → List Char → Option (List Toml × List Char)
  | 0, _, _ => none
  | fuel + 1, depth, text =>
    match skipLines (text.length + 1) text with
    | ']' :: after => some ([], after)
    | text => do
      let (item, rest) ← value? fuel depth text
      match skipLines (rest.length + 1) rest with
      | ']' :: after => return ([item], after)
      | ',' :: rest =>
        let (items, after) ← items? fuel depth rest
        return (item :: items, after)
      | _ => none

def pairs? : (fuel depth : Nat) → Members → List Char → Option (Members × List Char)
  | 0, _, _, _ => none
  | fuel + 1, depth, members, text => do
    let ((path, key), rest) ← key? maxDepth text
    match rest with
    | '=' :: rest =>
      let (value, rest) ← value? fuel depth (skipSpaces rest)
      let members ← members.addPair? path key value
      match skipSpaces rest with
      | '\x7d' :: after => return (members, after)
      | ',' :: rest => pairs? fuel depth members rest
      | _ => none
    | _ => none

end

structure Reading where
  members : Members := []
  current : List String := []

namespace Reading

def header? (r : Reading) (double : Bool) (path : List String) (key : String) : Option Reading := do
  let change (members : Members) := if double then members.another? key else members.state? key
  return { members := ← r.members.at? change path, current := path ++ [key] }

def pair? (r : Reading) (path : List String) (key : String) (value : Toml) : Option Reading := do
  return { r with members := ← r.members.at? (·.addPair? path key value) r.current }

def readHeader? (r : Reading) (double : Bool) (text : List Char) : Option (Reading × List Char) := do
  let ((path, key), rest) ← key? maxDepth text
  let rest ← after? ']' rest
  let rest ← if double then after? ']' rest else some rest
  return (← r.header? double path key, rest)

def readPair? (r : Reading) (text : List Char) : Option (Reading × List Char) := do
  let ((path, key), rest) ← key? maxDepth text
  let (value, rest) ← value? (2 * text.length + 1) maxDepth (skipSpaces (← after? '=' rest))
  return (← r.pair? path key value, rest)

def readLine? (r : Reading) (text : List Char) : Option (Reading × List Char) :=
  match skipSpaces text with
  | '[' :: '[' :: rest => r.readHeader? true rest
  | '[' :: rest => r.readHeader? false rest
  | [] => some (r, [])
  | c :: rest =>
    if c == '#' || c == '\n' || c == '\r' then some (r, c :: rest) else r.readPair? (c :: rest)

def readAll? : (fuel : Nat) → Reading → List Char → Option Reading
  | 0, _, _ => none
  | fuel + 1, r, text => do
    let (r, rest) ← r.readLine? text
    match rest with
    | [] => return r
    | rest =>
      match ← lineEnd? rest with
      | [] => return r
      | rest => readAll? fuel r rest

end Reading

def dropMark : List Char → List Char
  | '\ufeff' :: rest => rest
  | text => text

def read? (text : String) : Option (List (String × Toml)) :=
  let text := dropMark text.toList
  (Reading.readAll? (text.length + 1) {} text).map fun r => finishMembers r.members

end ProofTutor.Toml
