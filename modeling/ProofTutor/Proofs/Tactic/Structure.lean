import Mathlib.Algebra.Order.BigOperators.Group.List
import Mathlib.Algebra.Order.Ring.Nat
import ProofTutor.Proofs.Text.Basic
import ProofTutor.Tactic.Selection

/-!
Induction over trees of tactics, and what the passes over a tree make of a list of its parts. A choice
is one list of alternatives here: the first one and the rest. Checks for metavariables stand right after
the tactics that can leave some and are no part of the source. Probes can be told from all other
tactics, and each tells its choice and its alternative; of several on one choice the last one counts.
-/

namespace ProofTutor.Tactic

@[elab_as_elim]
theorem treeInduction {motive : Tactic → Prop}
    (atomic : ∀ text m, motive (.atomic text m))
    (sequence : ∀ children m, (∀ t ∈ children, motive t) → motive (.sequence children m))
    (choice : ∀ number? first rest m, (∀ t ∈ first :: rest, motive t) →
      motive (.choice number? first rest m))
    (wrap : ∀ wrapper child m, motive child → motive (.wrap wrapper child m))
    (t : Tactic) : motive t := by
  refine Tactic.rec (motive_1 := motive) (motive_2 := fun ts => ∀ t ∈ ts, motive t)
    atomic sequence ?_ wrap ?_ ?_ t
  · intro number? first rest m head tail
    exact choice number? first rest m (List.forall_mem_cons.mpr ⟨head,tail⟩)
  · simp
  · intro t ts head tail
    exact List.forall_mem_cons.mpr ⟨head,tail⟩

theorem withChecksAllMap (ts : List Tactic) : withChecksAll ts = ts.map withChecks := by
  induction ts with
  | nil => rfl
  | cons t ts ih => simp [withChecksAll, ih]

theorem withProbesAllMap (ts : List Tactic) : withProbesAll ts = ts.map withProbes := by
  induction ts with
  | nil => rfl
  | cons t ts ih => simp [withProbesAll, ih]

theorem selectWhereAllMap (number? : Option Nat) (index : Nat) (ts : List Tactic) :
    selectWhereAll number? index ts = ts.map (selectWhere number? index) := by
  induction ts with
  | nil => rfl
  | cons t ts ih => simp [selectWhereAll, ih]

theorem choiceCountOfSum (ts : List Tactic) : choiceCountOf ts = (ts.map choiceCount).sum := by
  induction ts with
  | nil => rfl
  | cons t ts ih => simp [choiceCountOf, ih]

theorem atomsOfFlat (ts : List Tactic) : atomsOf ts = ts.flatMap atoms := by
  induction ts with
  | nil => rfl
  | cons t ts ih => simp [atomsOf, ih]

theorem sourcesMap (dropChecks : Bool) (ts : List Tactic) :
    sources dropChecks ts = ts.map (source dropChecks) := by
  induction ts with
  | nil => rfl
  | cons t ts ih => simp [sources, ih]

theorem alternativeMem {number? : Option Nat} {index : Nat} {ts : List Tactic} {u : Tactic}
    (mem : u ∈ withProbesFrom number? index ts) :
    ∃ t ∈ ts, ∃ place, u = probed number? place t.withProbes := by
  induction ts generalizing index with
  | nil => simp [withProbesFrom] at mem
  | cons t ts ih =>
    rcases List.mem_cons.mp mem with rfl | later
    · exact ⟨t,List.mem_cons_self,index,rfl⟩
    · obtain ⟨u, inside, found⟩ := ih later
      exact ⟨u,List.mem_cons_of_mem _ inside,found⟩

/-! ### Checks -/

def withCheck (text : String) : List String :=
  if Text.begins (Text.trimStart text) "apply" || Text.begins (Text.trimStart text) "have" then
    [text, "no_meta_vars"]
  else [text]

theorem needsCheckBegins (text : String) : needsCheck text =
    (Text.begins (Text.trimStart text) "apply" || Text.begins (Text.trimStart text) "have") := by
  simp [needsCheck, Vocabulary.metaVarSources]

theorem sourceChecked {text : String} (needs : needsCheck text = true) (m : Messages) :
    source true (.sequence [.atomic text, .atomic Vocabulary.noMetaVars] m) =
      source true (.atomic text m) := by
  have nonempty : text ≠ "" := by
    rintro rfl
    exact absurd needs (by decide +kernel)
  have other : text ≠ Vocabulary.noMetaVars := by
    rintro rfl
    exact absurd needs (by decide +kernel)
  simp [source, sources, Text.join, nonempty, other]

theorem sourceWithChecks (t : Tactic) : t.withChecks.source true = t.source true := by
  induction t using treeInduction with
  | atomic text m =>
    rw [withChecks]
    split
    · exact sourceChecked ‹_› m
    · rfl
  | sequence children m ih =>
    have same := List.map_congr_left ih
    simp only [withChecks, source, sourcesMap, withChecksAllMap, List.map_map, Function.comp_def,
      same]
  | choice number? first rest m ih =>
    obtain ⟨head, tail⟩ := List.forall_mem_cons.mp ih
    have same := List.map_congr_left tail
    simp only [withChecks, source, sourcesMap, withChecksAllMap, List.map_map, Function.comp_def,
      head, same]
  | wrap wrapper child m ih => simp only [withChecks, source, ih]

theorem atomsChecked (t : Tactic) : t.withChecks.atoms = t.atoms.flatMap withCheck := by
  induction t using treeInduction with
  | atomic text m =>
    rw [withChecks, needsCheckBegins, atoms, List.flatMap_singleton, withCheck]
    split <;> rfl
  | sequence children m ih =>
    simp only [withChecks, atoms, withChecksAllMap, atomsOfFlat, List.flatMap_map,
      List.flatMap_assoc]
    exact List.flatMap_congr ih
  | choice number? first rest m ih =>
    obtain ⟨head, tail⟩ := List.forall_mem_cons.mp ih
    simp only [withChecks, atoms, withChecksAllMap, atomsOfFlat, List.flatMap_map,
      List.flatMap_append, List.flatMap_assoc, head]
    rw [List.flatMap_congr tail]
  | wrap wrapper child m ih => simp only [withChecks, atoms, ih]

end ProofTutor.Tactic

/-! ### Probes -/

namespace ProofTutor

namespace Vocabulary

def probeHead : List Char := "trace \"".toList ++ probeMark.toList

def probeOf? (text : String) : Option (Nat × Nat) :=
  let after := text.toList.drop probeHead.length
  let node := Nat.ofDigitChars 10 (after.takeWhile (·.isDigit)) 0
  let rest := (after.dropWhile (·.isDigit)).drop 1
  let alternative := Nat.ofDigitChars 10 (rest.takeWhile (·.isDigit)) 0
  if probe node alternative = text then some (node, alternative) else none

theorem digitsNeedNoEscape (n : Nat) :
    (Nat.toDigits 10 n).flatMap (fun c => if c = '"' then ['\\', '"'] else [c]) =
      Nat.toDigits 10 n := by
  have same : ∀ c ∈ Nat.toDigits 10 n, (if c = '"' then ['\\', '"'] else [c]) = [c] := by
    intro c mem
    rw [if_neg]
    rintro rfl
    simpa using Text.digitsAreDigits n _ mem
  rw [List.flatMap_congr same, List.flatMap_singleton']

theorem traceCharacters (text : String) : (trace text).toList = "trace \"".toList ++
    (text.toList.flatMap (fun c => if c = '"' then ['\\', '"'] else [c]) ++ ['"']) := by
  rw [trace, String.toList_append, String.toList_append, List.append_assoc]
  exact congrArg (_ ++ ·) (congrArg (· ++ _) String.toList_ofList)

theorem probeTextCharacters (node alternative : Nat) : (probeText node alternative).toList =
    probeMark.toList ++ (Nat.toDigits 10 node ++ '.' :: Nat.toDigits 10 alternative) := by
  simp only [probeText, String.toList_append, Nat.toString_eq_ofList_toDigits,
    String.toList_ofList, List.append_assoc]
  rfl

theorem probeCharacters (node alternative : Nat) : (probe node alternative).toList =
    probeHead ++ (Nat.toDigits 10 node ++ '.' :: (Nat.toDigits 10 alternative ++ ['"'])) := by
  have mark : probeMark.toList.flatMap (fun c => if c = '"' then ['\\', '"'] else [c]) =
      probeMark.toList := by simp [probeMark]
  have point : (if '.' = '"' then ['\\', '"'] else ['.']) = ['.'] := if_neg (by simp)
  have head (rest : List Char) : "trace \"".toList ++ (probeMark.toList ++ rest) =
      probeHead ++ rest := (List.append_assoc _ _ _).symm
  rw [probe, traceCharacters, probeTextCharacters, List.flatMap_append, List.flatMap_append, mark,
    List.flatMap_cons, digitsNeedNoEscape, digitsNeedNoEscape, point, List.append_assoc, head,
    List.append_assoc]
  rfl

theorem takeDigits (n : Nat) {c : Char} (rest : List Char) (stop : c.isDigit = false) :
    (Nat.toDigits 10 n ++ c :: rest).takeWhile (·.isDigit) = Nat.toDigits 10 n := by
  rw [List.takeWhile_append_of_pos (Text.digitsAreDigits n), List.takeWhile_cons_of_neg (by simp [stop]),
    List.append_nil]

theorem dropDigits (n : Nat) {c : Char} (rest : List Char) (stop : c.isDigit = false) :
    (Nat.toDigits 10 n ++ c :: rest).dropWhile (·.isDigit) = c :: rest := by
  rw [List.dropWhile_append_of_pos (Text.digitsAreDigits n), List.dropWhile_cons_of_neg (by simp [stop])]

theorem probeOfProbe (node alternative : Nat) :
    probeOf? (probe node alternative) = some (node, alternative) := by
  have after : (probe node alternative).toList.drop probeHead.length =
      Nat.toDigits 10 node ++ '.' :: (Nat.toDigits 10 alternative ++ '"' :: []) := by
    simp [probeCharacters]
  simp only [probeOf?, after, takeDigits node _ (show '.'.isDigit = false from rfl),
    dropDigits node _ (show '.'.isDigit = false from rfl), List.drop_succ_cons, List.drop_zero,
    takeDigits alternative _ (show '"'.isDigit = false from rfl), Nat.ofDigitChars_ten_toDigits,
    if_pos]

theorem eqProbe {text : String} {p : Nat × Nat} (found : probeOf? text = some p) :
    text = probe p.1 p.2 := by
  simp only [probeOf?] at found
  split at found
  · rename_i same
    cases Option.some.inj found
    exact same.symm
  · contradiction

theorem neProbe {text : String} (unread : probeOf? text = none) (node alternative : Nat) :
    text ≠ probe node alternative := by
  rintro rfl
  simp [probeOfProbe] at unread

end Vocabulary

namespace Tactic

theorem takenAppendLeft {before after : List Probe} {node : Nat}
    (others : ∀ p ∈ after, p.1 ≠ node) : taken (before ++ after) node = taken before node := by
  have skip : after.reverse.find? (·.1 == node) = none := by simpa using others
  simp [taken, List.find?_append, skip]

theorem takenAppendRight {before after : List Probe} {node : Nat}
    (others : ∀ p ∈ before, p.1 ≠ node) : taken (before ++ after) node = taken after node := by
  have skip : before.reverse.find? (·.1 == node) = none := by simpa using others
  simp [taken, List.find?_append, skip]

theorem takenReported (before : List Probe) (node index : Nat) :
    taken (before ++ [(node, index)]) node = index := by
  simp [taken]

end Tactic

end ProofTutor
