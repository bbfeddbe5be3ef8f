import ProofTutor.Text.Basic

/-!
JSON values. A number is either an integer that a 64-bit word holds, signed or not, or it is kept
as it was written; of a number that is read as a double-precision one only the range is checked: a
significand of 64 bits and a power of ten are rounded one by one, and their product has to be finite.
Members of an object keep their order; of two members with one name the later one counts.
-/

namespace ProofTutor

inductive Json where
  | null
  | bool (value : Bool)
  | int (value : Int)
  | real (text : String)
  | str (text : String)
  | arr (items : List Json)
  | obj (members : List (String × Json))
  deriving Inhabited

namespace Json

def member? (name : String) : Json → Option Json
  | .obj members => (members.reverse.find? (·.1 == name)).map (·.2)
  | _ => none

def ofNat (n : Nat) : Json :=
  .int n

def ofOption {α : Type} (encode : α → Json) : Option α → Json
  | none => .null
  | some a => encode a

def ofList {α : Type} (encode : α → Json) (items : List α) : Json :=
  .arr (items.map encode)

def ofStrings (items : List String) : Json :=
  ofList .str items

def str? : Json → Option String
  | .str s => some s
  | _ => none

def bool? : Json → Option Bool
  | .bool b => some b
  | _ => none

def arr? : Json → Option (List Json)
  | .arr items => some items
  | _ => none

def members? : Json → Option (List (String × Json))
  | .obj members => some members
  | _ => none

/-- An object with members of these names. It may also be written as the list of their values in the
order of the names; from `least` on they may be left out at the end. -/
def record? (names : List String) (least : Nat) : Json → Option Json
  | .obj members => some (.obj members)
  | .arr items =>
    if least ≤ items.length ∧ items.length ≤ names.length then some (.obj (names.zip items)) else none
  | _ => none

def nat? (bound : Nat) : Json → Option Nat
  | .int (.ofNat n) => if n < bound then some n else none
  | _ => none

def list? {α : Type} (decode : Json → Option α) (json : Json) : Option (List α) :=
  json.arr?.bind (·.mapM decode)

def required? {α : Type} (name : String) (decode : Json → Option α) (json : Json) : Option α :=
  (json.member? name).bind decode

def optional? {α : Type} (name : String) (decode : Json → Option α) (json : Json) :
    Option (Option α) :=
  match json.member? name with
  | none => some none
  | some .null => some none
  | some value => (decode value).map some

def defaulted? {α : Type} (name : String) (default : α) (decode : Json → Option α) (json : Json) :
    Option α :=
  match json.member? name with
  | none => some default
  | some value => decode value

def tagged? (name : String) (json : Json) : Option (String × Json) :=
  match json with
  | .obj members => do
    guard (members.countP (·.1 == name) ≤ 1)
    return (← json.required? name str?, json)
  | .arr (.str tag :: items) => some (tag, .arr items)
  | _ => none

def isNull : Json → Bool
  | .null => true
  | _ => false

def isNothing : Json → Bool
  | .null | .obj [] => true
  | _ => false

def named? {α : Type} (blank : Json → Bool) (ofName? : String → Option α) : Json → Option α
  | .str name => ofName? name
  | .obj [(name, value)] => if blank value then ofName? name else none
  | _ => none

def nameOrPlace? (names : List String) : Json → Option String
  | .str name => names.find? (· == name)
  | .int (.ofNat place) => names[place]?
  | _ => none

def namesOnce (names : List String) : Json → Bool
  | .obj members => names.all fun name => members.countP (·.1 == name) ≤ 1
  | _ => true

def present (members : List (String × Option Json)) : List (String × Json) :=
  members.filterMap fun (name, value) => value.map (name, ·)

/-! ### Numbers -/

structure Numeral where
  negative : Bool
  whole : List Char
  fraction : List Char
  exponent : Option Int

def digitRun (cs : List Char) : List Char × List Char :=
  cs.span Char.isDigit

def fractionPart? : List Char → Option (List Char × List Char)
  | '.' :: rest =>
    match digitRun rest with
    | ([], _) => none
    | parts => some parts
  | rest => some ([], rest)

def exponentPart? : List Char → Option (Option Int × List Char)
  | 'e' :: rest | 'E' :: rest =>
    let (negative, rest) := match rest with
      | '-' :: rest => (true, rest)
      | '+' :: rest => (false, rest)
      | _ => (false, rest)
    match digitRun rest with
    | ([], _) => none
    | (digits, after) =>
      let value : Int := (Text.digitsValue? 0 digits).getD 0
      some (some (if negative then -value else value), after)
  | rest => some (none, rest)

/-- The double-precision number that is nearest to a natural number, an even significand for a tie,
as long as exponents have no bound. -/
def nearestDouble (n : Nat) : Nat :=
  if n < 1 <<< 53 then n
  else
    let unit := 1 <<< (n.log2 - 52)
    let below := n / unit
    let beyond := 2 * (n % unit)
    if unit < beyond || (beyond == unit && below % 2 == 1) then (below + 1) * unit else below * unit

def infinityBound : Nat := 1 <<< 1024 - 1 <<< 970

def overflows (significand : Nat) (exponent : Int) : Bool :=
  significand != 0 &&
    match exponent with
    | .ofNat e =>
      308 < e || infinityBound ≤ nearestDouble significand * nearestDouble (Nat.pow 10 e)
    | .negSucc _ => false

def fillWord (value : Nat) : List Char → Nat × List Char
  | [] => (value, [])
  | c :: cs =>
    let next := 10 * value + (c.toNat - 48)
    if next < Text.word64 then fillWord next cs else (value, c :: cs)

namespace Numeral

def scan? (text : List Char) : Option (Numeral × List Char) := do
  let (negative, rest) := match text with
    | '-' :: rest => (true, rest)
    | _ => (false, text)
  let (whole, rest) := digitRun rest
  match whole with
  | [] => none
  | '0' :: _ :: _ => none
  | _ =>
    let (fraction, rest) ← fractionPart? rest
    let (exponent, rest) ← exponentPart? rest
    return ({ negative, whole, fraction, exponent }, rest)

/-- Whether the number is too large. Digits of the whole part that the significand has no room for
count as powers of ten; such digits of the fraction do not count. -/
def isTooLarge (n : Numeral) : Bool :=
  let (significand, left) := fillWord 0 n.whole
  let (significand, dropped) := fillWord significand n.fraction
  overflows significand
    (left.length + dropped.length - n.fraction.length + n.exponent.getD 0)

def value? (n : Numeral) (text : List Char) : Option Json :=
  let whole := (Text.digitsValue? 0 n.whole).getD 0
  let integral := n.fraction.isEmpty && n.exponent.isNone
  if integral && !n.negative && whole < Text.word64 then some (.int whole)
  else if integral && n.negative && 0 < whole && whole ≤ 0x8000000000000000 then some (.int (-whole))
  else if n.isTooLarge then none
  else some (.real (.ofList text))

end Numeral

end Json

end ProofTutor
