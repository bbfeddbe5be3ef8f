import Mathlib.Data.List.Basic
import Mathlib.Data.List.DropRight
import Mathlib.Data.List.Infix
import ProofTutor.Text.Basic

/-!
Numerals that are written without a sign are read as the numbers they were written for, and no number
is read that reaches the bound. Trimming takes blanks off both ends and nothing from between, and a text
holds a mark exactly where the mark is cut out of it.
-/

namespace ProofTutor.Text

/-! ### Numerals -/

theorem digitsValueDigits {cs : List Char} (digits : ∀ c ∈ cs, c.isDigit = true) (value : Nat) :
    digitsValue? value cs = some (Nat.ofDigitChars 10 cs value) := by
  induction cs generalizing value with
  | nil => rfl
  | cons c cs ih =>
    obtain ⟨digit, others⟩ := List.forall_mem_cons.mp digits
    rw [digitsValue?, digitValue?, if_pos digit, Option.bind_some, ih others,
      Nat.ofDigitChars_cons]
    rfl

theorem digitsAreDigits (n : Nat) : ∀ c ∈ Nat.toDigits 10 n, c.isDigit :=
  fun _ mem => Nat.isDigit_of_mem_toDigits (by omega) (by omega) mem

theorem numeralCharacters (n : Nat) : (toString n).toList = Nat.toDigits 10 n := by
  rw [Nat.toString_eq_ofList_toDigits, String.toList_ofList]

theorem numeralDigits {n : Nat} {c : Char} (mem : c ∈ (toString n).toList) : c.isDigit = true := by
  rw [numeralCharacters] at mem
  exact digitsAreDigits n c mem

theorem numeralFeedless (n : Nat) : '\n' ∉ (toString n).toList :=
  fun feed => by cases numeralDigits feed

theorem numeralLast (n : Nat) : ∃ front d, (toString n).toList = front ++ [d] ∧ d.isDigit = true := by
  obtain empty | ⟨front, d, same⟩ := List.eq_nil_or_concat' (toString n).toList
  · exact absurd (numeralCharacters n ▸ empty) Nat.toDigits_ne_nil
  · have last : d ∈ (toString n).toList := same ▸ List.mem_concat_self
    exact ⟨front,d,same,numeralDigits last⟩

theorem digitPlain {c : Char} (digit : c.isDigit = true) : isBlank c = false := by
  have ⟨low, high⟩ : 48 ≤ c.toNat ∧ c.toNat ≤ 57 := by
    simpa [Char.isDigit, UInt32.le_iff_toNat_le] using digit
  simp [isBlank]
  omega

theorem readNatNumeral {bound n : Nat} (small : n < bound) :
    readNat? bound (toString n).toList = some n := by
  have unsigned : ∀ rest, (toString n).toList ≠ '+' :: rest := by
    intro rest same
    cases numeralDigits (same ▸ List.mem_cons_self : '+' ∈ (toString n).toList)
  have nonempty : (toString n).toList ≠ [] := numeralCharacters n ▸ Nat.toDigits_ne_nil
  rw [readNat?, if_neg nonempty, digitsValueDigits fun _ mem => numeralDigits mem, numeralCharacters,
    Nat.ofDigitChars_ten_toDigits]
  · simp [small]
  · exact unsigned

theorem readNatSmall {bound n : Nat} {cs : List Char} (read : readNat? bound cs = some n) :
    n < bound := by
  have filtered {digits : List Char} (found : (if digits = [] then none else
      (digitsValue? 0 digits).filter (· < bound)) = some n) : n < bound := by
    split at found
    · cases found
    · simpa using (Option.filter_eq_some_iff.mp found).2
  unfold readNat? at read
  dsimp only at read
  split at read
  · exact filtered read
  · exact filtered read

/-! ### Trimming and searching -/

theorem dropEndBlanksEq (cs : List Char) : dropEndBlanks cs = cs.rdropWhile isBlank := by
  induction cs with
  | nil => rfl
  | cons c cs ih =>
    rw [dropEndBlanks, ih, List.rdropWhile, List.rdropWhile, List.reverse_cons, List.dropWhile_append]
    cases rest : cs.reverse.dropWhile isBlank with
    | nil => by_cases blank : isBlank c <;> simp [blank]
    | cons d ds =>
      have nonempty : (d :: ds).reverse ≠ [] := by simp
      cases kept : (d :: ds).reverse with
      | nil => exact absurd kept nonempty
      | cons e es => simp [← kept]

theorem stripInfix (cs : List Char) : strip cs <:+: cs := by
  rw [strip, dropEndBlanksEq]
  exact (List.rdropWhile_prefix ..).isInfix.trans (List.dropWhile_suffix isBlank).isInfix

theorem stripNil {cs : List Char} : strip cs = [] ↔ ∀ c ∈ cs, isBlank c := by
  rw [strip, dropEndBlanksNil]
  induction cs with
  | nil => simp [dropBlanks]
  | cons c cs ih =>
    by_cases blank : isBlank c
    · rw [dropBlanks, List.dropWhile_cons_of_pos blank]
      simpa [blank, dropBlanks] using ih
    · simp [dropBlanks, blank]

theorem stripBlankStart {c : Char} (blank : isBlank c) (cs : List Char) :
    strip (c :: cs) = strip cs := by
  rw [strip, strip, dropBlanks, dropBlanks, List.dropWhile_cons_of_pos blank]

theorem stripBlankEnd {c : Char} (blank : isBlank c) (cs : List Char) :
    strip (cs ++ [c]) = strip cs := by
  rw [strip, strip, dropBlanks, dropBlanks, List.dropWhile_append, dropEndBlanksEq, dropEndBlanksEq]
  split
  · rename_i empty
    rw [List.isEmpty_iff.mp empty]
    simp [blank]
  · exact List.rdropWhile_concat_pos _ _ _ blank

/-! ### Marks -/

theorem infixDropBlanks {mark cs : List Char} (first : mark.head?.any isBlank = false)
    (inside : mark <:+: cs) : mark <:+: cs.dropWhile isBlank := by
  induction cs with
  | nil => exact inside
  | cons c cs ih =>
    by_cases blank : isBlank c
    · rw [List.dropWhile_cons_of_pos blank]
      rcases List.infix_cons_iff.mp inside with start | later
      · cases mark with
        | nil => exact List.nil_infix
        | cons head mark =>
          obtain ⟨rfl, _⟩ := List.cons_prefix_cons.mp start
          cases blank.symm.trans first
      · exact ih later
    · rwa [List.dropWhile_cons_of_neg blank]

theorem infixStrip {mark cs : List Char} (first : mark.head?.any isBlank = false)
    (last : mark.getLast?.any isBlank = false) : mark <:+: strip cs ↔ mark <:+: cs := by
  refine ⟨fun inside => inside.trans (stripInfix cs),fun inside => ?_⟩
  rw [strip, dropEndBlanksEq, List.rdropWhile, ← List.reverse_infix, List.reverse_reverse]
  apply infixDropBlanks
  · simpa using last
  · exact List.reverse_infix.mpr (infixDropBlanks first inside)

theorem cutSome {mark cs : List Char} : (cut? mark cs).isSome ↔ mark <:+: cs := by
  induction cs with
  | nil =>
    cases mark with
    | nil => simp [cut?, stripHead?]
    | cons m mark => simp [cut?, stripHead?]
  | cons c cs ih =>
    rw [List.infix_cons_iff, ← ih, cut?]
    cases here : stripHead? mark (c :: cs) with
    | some rest =>
      have start : mark <+: c :: cs := ⟨rest,(stripHeadSome.mp here).symm⟩
      simp [start]
    | none =>
      have other : ¬ mark <+: c :: cs := by
        rintro ⟨rest, same⟩
        cases here.symm.trans (stripHeadSome.mpr same.symm)
      simp [other]

theorem containsInfix {text part : String} : contains text part = true ↔ part.toList <:+: text.toList :=
  cutSome

theorem containsTrim {part : String} (first : part.toList.head?.any isBlank = false)
    (last : part.toList.getLast?.any isBlank = false) (text : String) :
    contains (trim text) part = contains text part := by
  rw [Bool.eq_iff_iff, containsInfix, containsInfix, trim, String.toList_ofList, infixStrip first last]

theorem headSome {head text : List Char} : (stripHead? head text).isSome ↔ head <+: text := by
  rw [Option.isSome_iff_exists]
  exact exists_congr fun rest => stripHeadSome.trans eq_comm

theorem startsWord (word rest : String) : word.toList <+: (word ++ rest).toList := by
  rw [String.toList_append]
  exact List.prefix_append _ _

end ProofTutor.Text
