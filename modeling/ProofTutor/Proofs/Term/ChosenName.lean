import Mathlib
import ProofTutor.Proofs.Dump.Lexing
import ProofTutor.Proofs.Term.FreshName

/-!
The form of chosen names. A name is a hint with primes or a number after it, so it is free of the marks
of the dump format, and the prover may propose it: where it is proposed again it is chosen again.
-/
namespace ProofTutor.Naming

/-! ### Hints and what is put after them -/

def isTailChar (c : Char) : Bool :=
  c == '\'' || c == '_' || c.isDigit

theorem freshNameForm (hint : String) (forbidden : List String) (doublePrime : Bool) :
    ∃ tail : String, freshName hint forbidden doublePrime = hint ++ tail ∧
      ∀ c ∈ tail.toList, isTailChar c = true := by
  rcases freshNameCandidate hint forbidden doublePrime with primed | ⟨n, same⟩
  · have each : ∀ tail ∈ ["","'","''"], ∀ c ∈ tail.toList, isTailChar c = true := by
      simp [isTailChar]
    have shape : ∀ name ∈ primes hint doublePrime, ∃ tail ∈ ["","'","''"], name = hint ++ tail := by
      cases doublePrime <;> simp [primes]
    obtain ⟨tail, mem, same⟩ := shape _ primed
    exact ⟨tail,same,each tail mem⟩
  · refine ⟨"_" ++ toString n,by rw [same, numbered, String.append_assoc],?_⟩
    intro c mem
    rw [String.toList_append, List.mem_append] at mem
    rcases mem with mark | digit
    · obtain rfl : c = '_' := by simpa using mark
      rfl
    · simp [isTailChar, Text.numeralDigits digit]

/-! ### Names proposed again -/

theorem digitAlphanumeric {c : Char} (digit : c.isDigit = true) : Text.isAlphanumeric c = true := by
  obtain ⟨low, high⟩ := Char.isDigit_iff_toNat.mp digit
  have numeric : Text.isNumeric c = true := by
    refine List.any_eq_true.mpr ⟨(0x30,0x39),by decide +kernel,?_⟩
    simpa using ⟨low,high⟩
  rw [Text.isAlphanumeric, numeric, Bool.or_true]

theorem usableAppend {name tail : String} (usable : isUsable name = true)
    (more : ∀ c ∈ tail.toList, isTailChar c = true) : isUsable (name ++ tail) = true := by
  have each : tail.toList.all (fun c => Text.isAlphanumeric c || c == '_' || c == '\'') = true := by
    refine List.all_eq_true.mpr fun c mem => ?_
    have tailChar := more c mem
    simp only [isTailChar, Bool.or_eq_true] at tailChar
    rcases tailChar with (prime | mark) | digit
    · simp [prime]
    · simp [mark]
    · simp [digitAlphanumeric digit]
  rw [isUsable] at usable ⊢
  rw [String.toList_append]
  cases chars : name.toList with
  | nil =>
    rw [chars] at usable
    cases usable
  | cons c cs =>
    rw [chars] at usable
    obtain ⟨letter, all⟩ := Bool.and_eq_true_iff.mp usable
    rw [List.cons_append]
    dsimp only
    rw [letter, ← List.cons_append, List.all_append, all, each]
    rfl

theorem chooseNameAgain (naming : Naming) (type : Term) (proverName : Option String)
    (siblings forbidden : List String) :
    naming.chooseName type (some (naming.chooseName type proverName siblings forbidden)) siblings
      forbidden = naming.chooseName type proverName siblings forbidden := by
  have new := chooseNameNew naming type proverName siblings forbidden
  generalize chosen : naming.chooseName type proverName siblings forbidden = name at new
  rw [chooseName, Option.filter_some]
  by_cases proposed : (naming.useProverNames && isUsable name) = true
  · rw [if_pos proposed]
    exact freshNameFree new naming.allowDoublePrime
  · rw [if_neg proposed]
    rw [chooseName] at chosen
    split at chosen
    · -- a name made of a usable one would be usable
      rename_i first kept
      obtain ⟨_, usable⟩ := Option.filter_eq_some_iff.mp kept
      obtain ⟨prover, usable⟩ := Bool.and_eq_true_iff.mp usable
      obtain ⟨tail, form, more⟩ := freshNameForm first forbidden naming.allowDoublePrime
      rw [← chosen, form, prover, usableAppend usable more] at proposed
      exact absurd rfl proposed
    · exact chosen

/-! ### Names and marks -/

theorem ofNatFree {n : Nat} (slash : n ≠ 47) (mark : n ≠ 191) :
    Char.ofNat n ≠ '/' ∧ Char.ofNat n ≠ '¿' := by
  constructor
  · intro same
    have code : (Char.ofNat n).toNat = 47 := congrArg Char.toNat same
    rw [Char.toNat_ofNat] at code
    split at code <;> omega
  · intro same
    have code : (Char.ofNat n).toNat = 191 := congrArg Char.toNat same
    rw [Char.toNat_ofNat] at code
    split at code <;> omega

theorem alphanumericFree {c : Char} (own : Text.isAlphanumeric c = true) : c ≠ '/' ∧ c ≠ '¿' := by
  have slash : Text.isAlphanumeric '/' = false := by decide +kernel
  have mark : Text.isAlphanumeric '¿' = false := by decide +kernel
  constructor
  · rintro rfl
    cases slash.symm.trans own
  · rintro rfl
    cases mark.symm.trans own

theorem lowerRunsApart : ∀ run ∈ Text.lowerRuns,
    (191 < run.1 + run.2.2.2 ∨ run.2.1 + run.2.2.2 < 191) ∧
      (47 < run.1 + run.2.2.2 ∨ run.2.1 + run.2.2.2 < 47) := by
  decide +kernel

theorem lowerCharFree {c : Char} (letter : Text.isAlphabetic c = true) :
    ∀ d ∈ Text.lowerChar c, d ≠ '/' ∧ d ≠ '¿' := by
  rw [Text.lowerChar]
  split
  · simp
  · dsimp only
    split
    · rename_i first last step shift found
      have within := List.find?_some found
      simp only [Bool.and_eq_true, decide_eq_true_eq] at within
      obtain ⟨⟨low, high⟩, _⟩ := within
      obtain ⟨mark, slash⟩ := lowerRunsApart _ (List.mem_of_find?_eq_some found)
      dsimp only at mark slash
      rw [List.forall_mem_singleton]
      exact ofNatFree (by omega) (by omega)
    · rw [List.forall_mem_singleton]
      exact alphanumericFree (by rw [Text.isAlphanumeric, letter, Bool.true_or])

theorem appendFree {name tail : String} (free : Info.Free (some name))
    (more : ∀ c ∈ tail.toList, isTailChar c = true) : Info.Free (some (name ++ tail)) := by
  rintro _ ⟨⟩ c mem
  rw [String.toList_append, List.mem_append] at mem
  rcases mem with own | after
  · exact free name rfl c own
  · have tailChar := more c after
    constructor
    · rintro rfl
      cases tailChar
    · rintro rfl
      cases tailChar

theorem freshNameClear {hint : String} (free : Info.Free (some hint)) (forbidden : List String)
    (doublePrime : Bool) : Info.Free (some (freshName hint forbidden doublePrime)) := by
  obtain ⟨tail, form, more⟩ := freshNameForm hint forbidden doublePrime
  rw [form]
  exact appendFree free more

theorem usableFree {name : String} (usable : isUsable name = true) : Info.Free (some name) := by
  rintro _ ⟨⟩ c mem
  rw [isUsable] at usable
  cases chars : name.toList with
  | nil =>
    rw [chars] at mem
    cases mem
  | cons first others =>
    rw [chars] at usable mem
    obtain ⟨_, all⟩ := Bool.and_eq_true_iff.mp usable
    have own := List.all_eq_true.mp all c mem
    simp only [Bool.or_eq_true, beq_iff_eq] at own
    rcases own with (letter | rfl) | rfl
    · exact alphanumericFree letter
    · decide
    · decide

theorem literalsFree {names : List String}
    (free : (names.all fun name => name.toList.all fun c => c != '/' && c != '¿') = true) :
    ∀ name ∈ names, Info.Free (some name) := by
  rintro name mem _ ⟨⟩ c inside
  simpa using List.all_eq_true.mp (List.all_eq_true.mp free name mem) c inside

theorem typeNameHintsFree (name : String) :
    ∀ hint ∈ hintsFromTypeName name, Info.Free (some hint) := by
  have letters : ∀ hint ∈ ["x","y","z"], Info.Free (some hint) := literalsFree (by decide +kernel)
  have lowered {c : Char} (letter : Text.isAlphabetic c = true) :
      Info.Free (some (.ofList (Text.lowerChar c))) := by
    rintro _ ⟨⟩
    rw [String.toList_ofList]
    exact lowerCharFree letter
  rw [hintsFromTypeName]
  split
  · split
    · refine List.forall_mem_cons.mpr ⟨lowered ‹_›,fun hint mem => letters hint ?_⟩
      exact List.mem_cons_of_mem _ (List.mem_of_mem_filter mem)
    · exact letters
  · split
    · exact List.forall_mem_singleton.mpr (lowered ‹_›)
    · exact letters
  · exact letters

theorem typeHintsFree (type : Term) : ∀ hint ∈ typeHints type, Info.Free (some hint) := by
  rw [typeHints]
  split
  case h_7 | h_8 =>
    split
    all_goals first
      | exact typeNameHintsFree _
      | exact literalsFree (by decide +kernel)
  all_goals exact literalsFree (by decide +kernel)

theorem laterLetterFree {hint : String} (free : Info.Free (some hint)) (steps : Nat) :
    Info.Free (some (laterLetter hint steps)) := by
  rw [laterLetter]
  split
  · split
    · rintro _ ⟨⟩
      rw [String.toList_ofList, List.forall_mem_singleton]
      apply ofNatFree <;> split <;> omega
    · exact free
  · exact free

theorem hintAtFree {hints : List String} (free : ∀ hint ∈ hints, Info.Free (some hint))
    (index : Nat) : Info.Free (some (hintAt hints index)) := by
  rw [hintAt]
  split
  · exact free _ (List.mem_of_getElem? ‹_›)
  · apply laterLetterFree
    cases last : hints.getLast? with
    | none => exact literalsFree (by decide +kernel) "x" (List.mem_singleton_self "x")
    | some hint => exact free hint (List.mem_of_getLast? last)

theorem commonInitialFree {names : List String} (free : ∀ name ∈ names, Info.Free (some name)) :
    Info.Free (commonInitial names) := by
  cases names with
  | nil => rintro _ ⟨⟩
  | cons first others =>
    rw [commonInitial]
    cases chars : first.toList with
    | nil => rintro _ ⟨⟩
    | cons c cs =>
      have own := free first List.mem_cons_self first rfl c (chars ▸ List.mem_cons_self)
      dsimp only
      split
      · rintro _ ⟨⟩
        rw [String.toList_ofList, List.forall_mem_singleton]
        exact own
      · rintro _ ⟨⟩

theorem chooseNameClear (naming : Naming) (type : Term) (proverName : Option String)
    {siblings : List String} (free : ∀ name ∈ siblings, Info.Free (some name))
    (forbidden : List String) :
    Info.Free (some (naming.chooseName type proverName siblings forbidden)) := by
  rw [chooseName]
  split
  · rename_i name kept
    obtain ⟨_, usable⟩ := Option.filter_eq_some_iff.mp kept
    exact freshNameClear (usableFree (Bool.and_eq_true_iff.mp usable).2) _ _
  · apply freshNameClear
    split
    · rename_i initial common
      have own : Info.Free (some initial) := common ▸ commonInitialFree free
      split
      · exact hintAtFree (typeHintsFree type) _
      · exact own
    · exact hintAtFree (typeHintsFree type) _

end ProofTutor.Naming
