import Mathlib.Data.List.Perm.Subperm
import ProofTutor.Course.Scan
import ProofTutor.Proofs.Course.BatchLines
import ProofTutor.Proofs.Text.Basic

/-! What the scanner finds in a source. Whatever is open, nested or never closed there, the exercises
found stand on lines of the source that open and close a proof, one after the other without touching,
so that files can be made for each of them and for any choice of them together. -/
namespace ProofTutor

namespace Course

def Begins (line : String) : Prop :=
  Text.trim line = "begin" ∨ " begin".toList <:+ (Text.trim line).toList

def Ends (line : String) : Prop :=
  Text.trim line = "end" ∨ "end,".toList <+: (Text.trim line).toList

instance (line : String) : Decidable (Begins line) :=
  inferInstanceAs (Decidable (_ ∨ _))

instance (line : String) : Decidable (Ends line) :=
  inferInstanceAs (Decidable (_ ∨ _))

theorem opensBegins {line : String} : opensProof (Text.trim line) = true ↔ Begins line := by
  rw [opensProof, Bool.or_eq_true, beq_iff_eq, Text.ends, Text.headSome, List.reverse_prefix, Begins]

theorem closesEnds {line : String} :
    (Text.trim line == "end" || Text.begins (Text.trim line) "end,") = true ↔ Ends line := by
  rw [Bool.or_eq_true, beq_iff_eq, Text.begins, Text.headSome, Ends]

end Course

structure Exercise.StandsIn (e : Exercise) (lines : List String) : Prop where
  fits : e.FitsIn lines.length
  begins : ∃ line, lines[e.beginLine - 1]? = some line ∧ Course.Begins line
  ends : ∃ line, lines[e.endLine - 1]? = some line ∧ Course.Ends line

theorem Exercise.StandsIn.more {e : Exercise} {lines : List String} (stands : e.StandsIn lines)
    (others : List String) : e.StandsIn (lines ++ others) := by
  obtain ⟨⟨first, forward, last⟩, ⟨opening, opens, begins⟩, closing, closes, ends⟩ := stands
  refine ⟨⟨first,forward,by rw [List.length_append]; omega⟩,⟨opening,?_,begins⟩,closing,?_,ends⟩
  · rw [List.getElem?_append_left (by omega), opens]
  · rw [List.getElem?_append_left (by omega), closes]

namespace Course.Scanning
variable {s next : Scanning} {number : Nat} {line : String} {read : List String}

/-! ### One line -/

def Idle (s : Scanning) : Prop :=
  ∀ name first, s.statement ≠ some (name, some first)

inductive Next (s : Scanning) (number : Nat) (line : String) : Scanning → Prop where
  | passes : Next s number line s
  | awaits (name : String) (idle : s.Idle) :
      Next s number line { s with statement := some (name, none) }
  | starts (name : String) (idle : s.Idle) (begins : Begins line) :
      Next s number line { s with statement := some (name, some number), depth := s.depth + 1 }
  | enters {name first} (opened : s.statement = some (name, some first)) (begins : Begins line) :
      Next s number line { s with depth := s.depth + 1 }
  | leaves {name first} (opened : s.statement = some (name, some first)) (inner : 1 < s.depth)
      (ends : Ends line) : Next s number line { s with depth := s.depth - 1 }
  | closes {name first} (opened : s.statement = some (name, some first)) (outer : s.depth ≤ 1)
      (ends : Ends line) :
      Next s number line
        { statement := none, depth := 0
          found := s.found ++ [{ name, beginLine := first, endLine := number }] }

theorem statementSame {given : String × Option Nat} (known : s.statement = some given) (depth : Nat) :
    { s with statement := some given, depth } = { s with depth } := by
  rw [← known]

theorem nextOpened {name : String} {first : Nat} (opened : s.statement = some (name, some first)) :
    Next s number line (s.inStatement name (some first) number (Text.trim line)) := by
  rw [inStatement]
  split
  · rename_i opens
    rw [Option.some_or, statementSame opened]
    exact .enters opened (opensBegins.mp opens)
  · split
    · rename_i ends
      split
      · exact .closes opened ‹_› (closesEnds.mp ends)
      · rw [statementSame opened]
        exact .leaves opened (by omega) (closesEnds.mp ends)
    · rw [statementSame opened s.depth]
      exact .passes

theorem nextIdle (idle : s.Idle) (name : String) :
    Next s number line (s.inStatement name none number (Text.trim line)) := by
  rw [inStatement]
  split
  · rename_i opens
    exact .starts name idle (opensBegins.mp opens)
  · exact .awaits name idle

theorem nextSteps (s : Scanning) (number : Nat) (line : String) :
    Next s number line (s.next number line) := by
  simp only [Scanning.next]
  cases known : s.statement with
  | none =>
    cases statementName? (Text.trim line) with
    | none => exact .passes
    | some name => exact nextIdle (by simp [Idle, known]) name
  | some given =>
    obtain ⟨name, first | first⟩ := given
    · exact nextIdle (by simp [Idle, known]) name
    · exact nextOpened known

/-! ### All lines -/

structure Sound (read : List String) (s : Scanning) : Prop where
  stands : ∀ e ∈ s.found, e.StandsIn read
  apart : s.found.Pairwise fun a b => a.endLine < b.beginLine
  idle : s.Idle → s.depth = 0
  opened : ∀ name first, s.statement = some (name, some first) → 0 < s.depth ∧ 1 ≤ first ∧
    (∃ line, read[first - 1]? = some line ∧ Begins line) ∧ ∀ e ∈ s.found, e.endLine < first

theorem Sound.before (sound : Sound read s) : ∀ e ∈ s.found, e.endLine ≤ read.length :=
  fun e among => (sound.stands e among).fits.2.2

theorem soundNext (sound : Sound read s) (line : String) :
    Sound (read ++ [line]) (s.next (read.length + 1) line) := by
  have stands : ∀ e ∈ s.found, e.StandsIn (read ++ [line]) :=
    fun e among => (sound.stands e among).more [line]
  have here : (read ++ [line])[read.length + 1 - 1]? = some line := by simp
  have opened {name first} (known : s.statement = some (name, some first)) :
      0 < s.depth ∧ 1 ≤ first ∧ (∃ line', (read ++ [line])[first - 1]? = some line' ∧ Begins line') ∧
        ∀ e ∈ s.found, e.endLine < first := by
    obtain ⟨deep, positive, ⟨opening, opens, begins⟩, behind⟩ := sound.opened name first known
    have inside := (List.getElem?_eq_some_iff.mp opens).1
    exact ⟨deep,positive,⟨opening,by rw [List.getElem?_append_left inside, opens],begins⟩,behind⟩
  have step := nextSteps s (read.length + 1) line
  generalize s.next (read.length + 1) line = after at step
  cases step with
  | passes => exact ⟨stands,sound.apart,sound.idle,fun _ _ => opened⟩
  | awaits name idle => exact ⟨stands,sound.apart,fun _ => sound.idle idle,by simp⟩
  | starts name idle begins =>
    refine ⟨stands,sound.apart,fun still => absurd rfl (still name (read.length + 1)),?_⟩
    rintro _ _ ⟨⟩
    refine ⟨Nat.succ_pos _,by omega,⟨line,here,begins⟩,fun e among => ?_⟩
    have := sound.before e among
    omega
  | @enters name first known begins =>
    refine ⟨stands,sound.apart,fun still => absurd known (still name first),fun name' first' same => ?_⟩
    obtain ⟨-, rest⟩ := opened same
    exact ⟨Nat.succ_pos _,rest⟩
  | @leaves name first known inner ends =>
    refine ⟨stands,sound.apart,fun still => absurd known (still name first),fun name' first' same => ?_⟩
    obtain ⟨-, rest⟩ := opened same
    exact ⟨Nat.sub_pos_of_lt inner,rest⟩
  | @closes name first known outer ends =>
    obtain ⟨-, positive, ⟨opening, opens, begins⟩, behind⟩ := sound.opened name first known
    obtain ⟨-, -, opens', -⟩ := opened known
    have inside := (List.getElem?_eq_some_iff.mp opens).1
    refine ⟨?_,?_,fun _ => rfl,by simp⟩
    · refine List.forall_mem_append.mpr ⟨stands,List.forall_mem_singleton.mpr ⟨?_,opens',line,here,ends⟩⟩
      exact ⟨positive,by simp only; omega,by simp⟩
    · exact List.pairwise_append.mpr ⟨sound.apart,List.pairwise_singleton _ _,by simpa using behind⟩

theorem soundRun (sound : Sound read s) (lines : List String) :
    Sound (read ++ lines) (s.run (read.length + 1) lines) := by
  induction lines generalizing read s with
  | nil => simpa [run] using sound
  | cons line lines ih =>
    have later := ih (soundNext sound line)
    rw [List.length_append, List.append_assoc] at later
    exact later

end Course.Scanning

namespace Course

theorem scanSound (source : String) :
    (∀ e ∈ (scan source).exercises, e.StandsIn (Text.lines source)) ∧
      (scan source).exercises.Pairwise fun a b => a.endLine < b.beginLine := by
  have start : Scanning.Sound [] {} := ⟨by simp,.nil,fun _ => rfl,by simp⟩
  have sound := Scanning.soundRun start (Text.lines source)
  exact ⟨sound.stands,sound.apart⟩

/-- Every exercise that is found in a source stands between a line that opens and a line that closes a
proof, before the next one, and files are made for each and for any choice of them in any order. -/
theorem scannedUsable (source : String) :
    let c := scan source
    (∀ e ∈ c.exercises, e.StandsIn (Text.lines source)) ∧
      (c.exercises.Pairwise fun a b => a.endLine < b.beginLine) ∧
      (∀ e ∈ c.exercises, ∃ a, Assembler.start c e = .ok a) ∧
      ∀ es sequence, es.Nodup → es ⊆ c.exercises → ∃ f, BatchFile.build c es sequence = .ok f := by
  intro c
  obtain ⟨stands, apart⟩ := scanSound source
  have fits : ∀ e ∈ c.exercises, e.FitsIn c.lines.length := fun e among => (stands e among).fits
  refine ⟨stands,apart,fun e among => ⟨_,Assembler.startFits (fits e among)⟩,?_⟩
  intro es sequence distinct chosen
  obtain ⟨inOrder, perm, sublist⟩ := List.subperm_of_subset distinct chosen
  have symmetric {a b : Exercise} (apart : a.Apart b) : b.Apart a := Or.symm apart
  have chosenApart : es.Pairwise Exercise.Apart :=
    (perm.pairwise_iff symmetric).mp ((apart.sublist sublist).imp Or.inl)
  exact BatchFile.buildOk.mpr ⟨fun e among => fits e (chosen among),chosenApart⟩

def nestedSource : String :=
  "lemma a : p :=\nbegin\n  have h : q, begin\n  end,\n  x\nend\nlemma b : q := begin\nend\n" ++
    "example : r :=\nbegin\n  have begin\nend\n"

theorem scannedUsableNested :
    ∃ a b f, (scan nestedSource).exercises = [a, b] ∧ (a.beginLine, a.endLine) = (2, 6) ∧
      (b.beginLine, b.endLine) = (7, 8) ∧ BatchFile.build (scan nestedSource) [b, a] 0 = .ok f := by
  have found : (scan nestedSource).exercises =
      [{ name := "a", beginLine := 2, endLine := 6 }, { name := "b", beginLine := 7, endLine := 8 }] := by
    decide +kernel
  obtain ⟨f, built⟩ := (scannedUsable nestedSource).2.2.2
    [{ name := "b", beginLine := 7, endLine := 8 }, { name := "a", beginLine := 2, endLine := 6 }] 0
    (by decide) (by rw [found]; decide)
  exact ⟨_,_,f,found,rfl,rfl,built⟩

end Course

end ProofTutor
