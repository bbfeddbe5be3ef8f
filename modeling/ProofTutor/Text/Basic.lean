/-!
Text as lists of characters: searching and cutting, where each cut loses nothing; blanks in the sense
of the Unicode property White_Space, and trimming; lines, which end at a line feed with a carriage
return before it, and of which there is none after the last feed; decimal numerals, which are refused
from a given bound on; and sets of characters as closed ranges of code points.
-/

namespace ProofTutor.Text

/-! ### Searching and cutting -/

def stripHead? : (head text : List Char) → Option (List Char)
  | [], cs => some cs
  | _ :: _, [] => none
  | h :: hs, c :: cs => if h = c then stripHead? hs cs else none

def cut? (mark : List Char) : List Char → Option (List Char × List Char)
  | [] => (stripHead? mark []).map fun after => ([], after)
  | c :: cs =>
    match stripHead? mark (c :: cs) with
    | some after => some ([], after)
    | none => (cut? mark cs).map fun (before, after) => (c :: before, after)

def cutLast? (mark : List Char) : List Char → Option (List Char × List Char)
  | [] => (stripHead? mark []).map fun after => ([], after)
  | c :: cs =>
    match cutLast? mark cs with
    | some (before, after) => some (c :: before, after)
    | none => (stripHead? mark (c :: cs)).map fun after => ([], after)

def splitAt (isMark : Char → Bool) : List Char → List (List Char)
  | [] => [[]]
  | c :: cs =>
    if isMark c then [] :: splitAt isMark cs
    else
      match splitAt isMark cs with
      | [] => [[c]]
      | piece :: pieces => (c :: piece) :: pieces

def begins (text head : String) : Bool :=
  (stripHead? head.toList text.toList).isSome

def ends (text tail : String) : Bool :=
  (stripHead? tail.toList.reverse text.toList.reverse).isSome

def contains (text part : String) : Bool :=
  (cut? part.toList text.toList).isSome

def words (isBlank : Char → Bool) (cs : List Char) : List (List Char) :=
  (splitAt isBlank cs).filter (· ≠ [])

def joinWith (mark : List Char) : List (List Char) → List Char
  | [] => []
  | [item] => item
  | item :: items => item ++ mark ++ joinWith mark items

def join (mark : String) : List String → String
  | [] => ""
  | [item] => item
  | item :: items => item ++ mark ++ join mark items

theorem stripHeadSome {head text rest : List Char} :
    stripHead? head text = some rest ↔ text = head ++ rest := by
  induction head generalizing text with
  | nil => simp [stripHead?, eq_comm]
  | cons h head ih =>
    cases text with
    | nil => simp [stripHead?]
    | cons c text =>
      rw [stripHead?]
      split
      · rename_i same
        simp [ih, same]
      · rename_i other
        simp [Ne.symm other]

theorem cutWhole {mark text before after : List Char} (cut : cut? mark text = some (before, after)) :
    text = before ++ mark ++ after := by
  induction text generalizing before with
  | nil =>
    simp only [cut?, Option.map_eq_some_iff, Prod.mk.injEq] at cut
    obtain ⟨rest, stripped, rfl, rfl⟩ := cut
    simpa using stripHeadSome.1 stripped
  | cons c text ih =>
    rw [cut?] at cut
    split at cut
    · rename_i stripped
      cases cut
      simpa using stripHeadSome.1 stripped
    · obtain ⟨⟨_, _⟩, later, same⟩ := Option.map_eq_some_iff.1 cut
      cases same
      simp [ih later]

/-! ### Blanks -/

def isBlank (c : Char) : Bool :=
  let n := c.toNat
  (0x09 ≤ n && n ≤ 0x0D) || n == 0x20 || n == 0x85 || n == 0xA0 || n == 0x1680 ||
    (0x2000 ≤ n && n ≤ 0x200A) || n == 0x2028 || n == 0x2029 || n == 0x202F ||
    n == 0x205F || n == 0x3000

def dropBlanks (cs : List Char) : List Char :=
  cs.dropWhile isBlank

def dropEndBlanks : List Char → List Char
  | [] => []
  | c :: cs =>
    match dropEndBlanks cs with
    | [] => if isBlank c then [] else [c]
    | rest => c :: rest

def strip (cs : List Char) : List Char :=
  dropEndBlanks (dropBlanks cs)

def trimStart (s : String) : String :=
  .ofList (dropBlanks s.toList)

def trimEnd (s : String) : String :=
  .ofList (dropEndBlanks s.toList)

def trim (s : String) : String :=
  .ofList (strip s.toList)

def allBlank (s : String) : Bool :=
  s.toList.all isBlank

theorem dropEndBlanksNil {cs : List Char} : dropEndBlanks cs = [] ↔ ∀ c ∈ cs, isBlank c := by
  induction cs with
  | nil => simp [dropEndBlanks]
  | cons c cs ih =>
    rw [dropEndBlanks]
    split
    · rename_i rest
      by_cases blank : isBlank c <;> simp [blank, ← ih, rest]
    · rename_i rest
      simp only [reduceCtorEq, List.mem_cons, forall_eq_or_imp, false_iff, not_and]
      exact fun _ blanks => rest (ih.2 blanks)

/-! ### Lines -/

def dropReturn : List Char → List Char
  | [] => []
  | ['\r'] => []
  | c :: cs => c :: dropReturn cs

def feedLines : List Char → List (List Char) × List Char
  | [] => ([], [])
  | c :: cs =>
    match feedLines cs with
    | (lines, rest) =>
      if c = '\n' then ([] :: lines, rest)
      else
        match lines with
        | [] => ([], c :: rest)
        | line :: lines => ((c :: line) :: lines, rest)

def linesOf (cs : List Char) : List (List Char) :=
  match feedLines cs with
  | (lines, []) => lines.map dropReturn
  | (lines, rest) => lines.map dropReturn ++ [rest]

def lines (s : String) : List String :=
  (linesOf s.toList).map .ofList

/-! ### Numerals -/

def digitValue? (c : Char) : Option Nat :=
  if c.isDigit then some (c.toNat - 48) else none

def digitsValue? (value : Nat) : List Char → Option Nat
  | [] => some value
  | c :: cs => (digitValue? c).bind fun d => digitsValue? (10 * value + d) cs

def digitIn? (radix : Nat) (c : Char) : Option Nat :=
  let value? :=
    if c.isDigit then some (c.toNat - 48)
    else if c.isLower then some (c.toNat - 87)
    else if c.isUpper then some (c.toNat - 55)
    else none
  value?.filter (· < radix)

def radixValue? (radix value : Nat) : List Char → Option Nat
  | [] => some value
  | c :: cs => (digitIn? radix c).bind fun d => radixValue? radix (radix * value + d) cs

def readNat? (bound : Nat) (cs : List Char) : Option Nat :=
  let digits := match cs with
    | '+' :: rest => rest
    | _ => cs
  if digits = [] then none
  else (digitsValue? 0 digits).filter (· < bound)

def word32 : Nat := 0x100000000

def word64 : Nat := 0x10000000000000000

/-! ### Lines in a stream of bytes -/

def byteLines : List UInt8 → List (List UInt8) × List UInt8
  | [] => ([], [])
  | b :: bs =>
    match byteLines bs with
    | (lines, rest) =>
      if b = 10 then ([] :: lines, rest)
      else
        match lines with
        | [] => ([], b :: rest)
        | line :: lines => ((b :: line) :: lines, rest)

def lineText? (line : List UInt8) : Option String :=
  match String.fromUTF8? ⟨line.toArray⟩ with
  | some s => if allBlank s then none else some (trim s)
  | none => none

/-! ### Ranges of characters -/

abbrev CodeRange := Nat × Nat

def inRanges (ranges : List CodeRange) (c : Char) : Bool :=
  ranges.any fun r => r.1 ≤ c.toNat && c.toNat ≤ r.2

end ProofTutor.Text
