import Mathlib.Data.List.Nodup
import ProofTutor.Proofs.Tactic.Numbering
import ProofTutor.Proofs.Tactic.Structure
import ProofTutor.Proofs.Text.Basic

/-! What instrumentation adds to a tree: numbers to its choices, and one probe after each
alternative. Taking them away gives back what was there, and from the text that a probe traces its
choice and its alternative are read. -/
namespace ProofTutor

/-! ### Reading a probe -/

namespace Text

theorem markApart {head before rest tail : List Char} {last : Char} (once : last ∉ head)
    (absent : ¬ head ++ [last] <:+: before) (nonempty : before ≠ []) :
    head ++ [last] ++ tail ≠ before ++ (head ++ [last] ++ rest) := by
  intro same
  rcases List.append_eq_append_iff.mp same with ⟨_, inside, _⟩ | ⟨shared, split, again⟩
  · exact absent ⟨[], _, inside.symm⟩
  cases ends : shared.getLast? with
  | none =>
    rw [List.getLast?_eq_none_iff.mp ends, List.append_nil] at split
    exact absent (split ▸ List.infix_rfl)
  | some c =>
    obtain ⟨front, rfl⟩ := List.getLast?_eq_some_iff.mp ends
    obtain ⟨split, rfl⟩ := List.append_singleton_inj.mp (split.trans (List.append_assoc _ _ _).symm)
    have short : (front ++ [last]).length ≤ head.length := by
      have positive := List.length_pos_iff.mpr nonempty
      have lengths := congrArg List.length split
      simp only [List.length_append, List.length_singleton] at lengths ⊢
      omega
    have front : front ++ [last] <+: head :=
      List.prefix_of_prefix_length_le ⟨tail, again.symm⟩ (List.append_assoc _ _ _ ▸ ⟨_, rfl⟩) short
    exact once (front.subset (by simp))

theorem cutFirst {head before rest : List Char} {last : Char} (once : last ∉ head)
    (absent : ¬ head ++ [last] <:+: before) :
    cut? (head ++ [last]) (before ++ (head ++ [last] ++ rest)) = some (before, rest) := by
  induction before with
  | nil =>
    have here := stripHeadSome.mpr (rfl : head ++ [last] ++ rest = _)
    rw [List.nil_append]
    obtain ⟨c, cs, same⟩ : ∃ c cs, head ++ [last] ++ rest = c :: cs :=
      List.exists_cons_of_ne_nil (by simp)
    rw [same] at here ⊢
    rw [cut?, here]
  | cons c before ih =>
    have later := ih fun inside => absent (inside.trans (List.suffix_cons c before).isInfix)
    have other : stripHead? (head ++ [last]) (c :: (before ++ (head ++ [last] ++ rest))) = none :=
      Option.eq_none_iff_forall_ne_some.mpr fun tail found =>
        markApart once absent (List.cons_ne_nil c before) (stripHeadSome.mp found).symm
    rw [List.cons_append, cut?, other, later]
    rfl

end Text

namespace Vocabulary

theorem takeReport (node index : Nat) {after : List Char}
    (stops : (after.head?.any fun c => c.isDigit || c == '.') = false) :
    (Nat.toDigits 10 node ++ '.' :: (Nat.toDigits 10 index ++ after)).takeWhile
        (fun c => c.isDigit || c == '.') =
      Nat.toDigits 10 node ++ '.' :: Nat.toDigits 10 index := by
  have allowed (n : Nat) : ∀ c ∈ Nat.toDigits 10 n, (c.isDigit || c == '.') = true :=
    fun c mem => by rw [Text.digitsAreDigits n c mem, Bool.true_or]
  have rest : after.takeWhile (fun c => c.isDigit || c == '.') = [] := by
    cases after with
    | nil => rfl
    | cons c cs => exact List.takeWhile_cons_of_neg (by simpa using stops)
  rw [List.takeWhile_append_of_pos (allowed node), List.takeWhile_cons_of_pos rfl,
    List.takeWhile_append_of_pos (allowed index), rest, List.append_nil]

theorem readProbeText {before after : String} {node index : Nat} (nodeSmall : node < Text.word64)
    (indexSmall : index < Text.word64) (absent : Text.contains before probeMark = false)
    (stops : (after.toList.head?.any fun c => c.isDigit || c == '.') = false) :
    readProbe? (before ++ probeText node index ++ after) = some (node, index) := by
  have once : '°' ∉ "EFFECTIVE CODE n".toList := by simp
  have mark : probeMark.toList = "EFFECTIVE CODE n".toList ++ ['°'] := rfl
  rw [← Bool.not_eq_true, Text.containsInfix, mark] at absent
  have point : Text.cut? ['.'] (Nat.toDigits 10 node ++ '.' :: Nat.toDigits 10 index) =
      some (Nat.toDigits 10 node, Nat.toDigits 10 index) := by
    refine @Text.cutFirst [] _ _ '.' List.not_mem_nil fun inside => ?_
    cases Text.digitsAreDigits node '.' (inside.subset List.mem_cons_self)
  have message : (before ++ probeText node index ++ after).toList =
      before.toList ++ (probeMark.toList ++
        (Nat.toDigits 10 node ++ '.' :: (Nat.toDigits 10 index ++ after.toList))) := by
    simp only [String.toList_append, probeTextCharacters, List.append_assoc, List.cons_append]
  have read := @Text.readNatNumeral Text.word64
  simp only [Text.numeralCharacters] at read
  rw [readProbe?, message, mark, Text.cutFirst once absent]
  simp only [Option.bind_eq_bind, Option.bind_some, takeReport node index stops, point,
    read nodeSmall, read indexSmall]
  rfl

end Vocabulary

namespace Tactic

/-! ### Taking the numbers away -/

mutual

def unnumbered : Tactic → Tactic
  | .atomic text m => .atomic text m
  | .sequence children m => .sequence (unnumberedAll children) m
  | .choice _ first rest m => .choice none (unnumbered first) (unnumberedAll rest) m
  | .wrap wrapper child m => .wrap wrapper (unnumbered child) m

def unnumberedAll : List Tactic → List Tactic
  | [] => []
  | t :: ts => unnumbered t :: unnumberedAll ts

end

theorem unnumberedNumberAll {ts : List Tactic}
    (inside : ∀ t ∈ ts, ∀ next, (t.number next).1.unnumbered = t.unnumbered) (next : Nat) :
    unnumberedAll (numberAll next ts).1 = unnumberedAll ts := by
  induction ts generalizing next with
  | nil => rfl
  | cons t ts ih =>
    obtain ⟨head, tail⟩ := List.forall_mem_cons.mp inside
    simp only [numberAll, unnumberedAll, head, ih tail]

theorem unnumberedNumber (t : Tactic) (next : Nat) :
    (t.number next).1.unnumbered = t.unnumbered := by
  induction t using treeInduction generalizing next with
  | atomic text m => rfl
  | sequence children m ih => simp only [number, unnumbered, unnumberedNumberAll ih]
  | choice number? first rest m ih =>
    obtain ⟨head, tail⟩ := List.forall_mem_cons.mp ih
    simp only [number, unnumbered, head, unnumberedNumberAll tail]
  | wrap wrapper child m ih => simp only [number, unnumbered, ih]

/-! ### Taking the probes away -/

def bare : Tactic → Tactic
  | .sequence [t, .atomic text m] outer =>
    if (Vocabulary.probeOf? text).isSome then t else .sequence [t, .atomic text m] outer
  | t => t

mutual

def withoutProbes : Tactic → Tactic
  | .atomic text m => .atomic text m
  | .sequence children m => .sequence (withoutProbesAll children) m
  | .choice number? first rest m =>
    .choice number? (bare (withoutProbes first)) (bareAll rest) m
  | .wrap wrapper child m => .wrap wrapper (withoutProbes child) m

def withoutProbesAll : List Tactic → List Tactic
  | [] => []
  | t :: ts => withoutProbes t :: withoutProbesAll ts

def bareAll : List Tactic → List Tactic
  | [] => []
  | t :: ts => bare (withoutProbes t) :: bareAll ts

end

theorem withoutProbesAllMap (ts : List Tactic) : withoutProbesAll ts = ts.map withoutProbes := by
  induction ts with
  | nil => rfl
  | cons t ts ih => simp [withoutProbesAll, ih]

theorem bareProbed (node index : Nat) (t : Tactic) :
    bare (probed (some node) index t).withoutProbes = t.withoutProbes := by
  simp [probed, withoutProbes, withoutProbesAll, bare, Vocabulary.probeOfProbe]

theorem bareWithProbesFrom {ts : List Tactic} (inside : ∀ t ∈ ts, t.withProbes.withoutProbes = t)
    (node index : Nat) : bareAll (withProbesFrom (some node) index ts) = ts := by
  induction ts generalizing index with
  | nil => rfl
  | cons t ts ih =>
    obtain ⟨head, tail⟩ := List.forall_mem_cons.mp inside
    rw [withProbesFrom, bareAll, bareProbed, head, ih tail]

def Numbered (t : Tactic) : Prop := none ∉ t.numbers

theorem Numbered.child {children : List Tactic} {m : Messages}
    (all : (Tactic.sequence children m).Numbered) : ∀ t ∈ children, t.Numbered := by
  intro t mem inside
  rw [Numbered, numbers, numbersOfFlat] at all
  exact all (List.mem_flatMap.mpr ⟨t, mem, inside⟩)

theorem Numbered.choice {number? : Option Nat} {first : Tactic} {rest : List Tactic} {m : Messages}
    (all : (Tactic.choice number? first rest m).Numbered) :
    ∃ node, number? = some node ∧ ∀ t ∈ first :: rest, t.Numbered := by
  rw [Numbered, numbersChoice, List.mem_cons, not_or] at all
  obtain ⟨node, rfl⟩ := Option.ne_none_iff_exists'.mp (Ne.symm all.1)
  exact ⟨node, rfl, fun t mem inside => all.2 (List.mem_flatMap.mpr ⟨t, mem, inside⟩)⟩

theorem withoutWithProbes {t : Tactic} (all : t.Numbered) : t.withProbes.withoutProbes = t := by
  induction t using treeInduction with
  | atomic text m => rfl
  | sequence children m ih =>
    have same : ∀ t ∈ children, (withoutProbes ∘ withProbes) t = id t := fun t mem =>
      ih t mem (all.child t mem)
    rw [withProbes, withoutProbes, withProbesAllMap, withoutProbesAllMap, List.map_map,
      List.map_congr_left same, List.map_id]
  | choice number? first rest m ih =>
    obtain ⟨node, rfl, inside⟩ := all.choice
    obtain ⟨head, tail⟩ := List.forall_mem_cons.mp fun t mem => ih t mem (inside t mem)
    rw [withProbes, withoutProbes, bareProbed, head, bareWithProbesFrom tail]
  | wrap wrapper child m ih => rw [withProbes, withoutProbes, ih all]

theorem numbersWithProbesFrom {ts : List Tactic}
    (inside : ∀ t ∈ ts, t.withProbes.numbers = t.numbers) (number? : Option Nat) (index : Nat) :
    numbersOf (withProbesFrom number? index ts) = numbersOf ts := by
  induction ts generalizing index with
  | nil => rfl
  | cons t ts ih =>
    obtain ⟨head, tail⟩ := List.forall_mem_cons.mp inside
    have own : (probed number? index t.withProbes).numbers = t.withProbes.numbers := by
      cases number? with
      | none => rfl
      | some node => simp [probed, numbers, numbersOf]
    rw [withProbesFrom, numbersOf, numbersOf, own, head, ih tail]

theorem numbersWithProbes (t : Tactic) : t.withProbes.numbers = t.numbers := by
  induction t using treeInduction with
  | atomic text m => rfl
  | sequence children m ih =>
    rw [withProbes, numbers, numbers, withProbesAllMap, numbersOfFlat, numbersOfFlat,
      List.flatMap_map]
    exact List.flatMap_congr ih
  | choice number? first rest m ih =>
    exact congrArg (number? :: ·) (numbersWithProbesFrom ih number? 0)
  | wrap wrapper child m ih => exact ih

/-! ### Where the probes stand -/

mutual

def nodes : Tactic → List Tactic
  | .atomic text m => [.atomic text m]
  | .sequence children m => .sequence children m :: nodesOf children
  | .choice number? first rest m => .choice number? first rest m :: (nodes first ++ nodesOf rest)
  | .wrap wrapper child m => .wrap wrapper child m :: nodes child

def nodesOf : List Tactic → List Tactic
  | [] => []
  | t :: ts => nodes t ++ nodesOf ts

end

theorem nodesOfFlat (ts : List Tactic) : nodesOf ts = ts.flatMap nodes := by
  induction ts with
  | nil => rfl
  | cons t ts ih => simp [nodesOf, ih]

theorem nodesChoice (number? : Option Nat) (first : Tactic) (rest : List Tactic) (m : Messages) :
    (Tactic.choice number? first rest m).nodes =
      .choice number? first rest m :: (first :: rest).flatMap nodes := by
  rw [nodes, nodesOfFlat, List.flatMap_cons]

def Probed : Tactic → Prop
  | .choice number? first rest _ => ∃ node, number? = some node ∧ ∀ index v,
      (first :: rest)[index]? = some v →
        ∃ t, v = Tactic.sequence [t, .atomic (Vocabulary.probe node index)]
  | _ => True

theorem withProbesFromAt (number? : Option Nat) (start index : Nat) (ts : List Tactic) :
    (withProbesFrom number? start ts)[index]? =
      ts[index]?.map fun t => probed number? (start + index) t.withProbes := by
  induction ts generalizing start index with
  | nil => rfl
  | cons t ts ih =>
    cases index with
    | zero => rfl
    | succ index =>
      rw [withProbesFrom, List.getElem?_cons_succ, List.getElem?_cons_succ, ih, Nat.add_right_comm]
      rfl

theorem choiceProbed (node : Nat) (first : Tactic) (rest : List Tactic) (m : Messages) :
    (Tactic.choice (some node) first rest m).withProbes.Probed := by
  refine ⟨node, rfl, fun index v found => ?_⟩
  have place := withProbesFromAt (some node) 0 index (first :: rest)
  rw [Nat.zero_add] at place
  obtain ⟨t, _, same⟩ := Option.map_eq_some_iff.mp (place.symm.trans found)
  exact ⟨t.withProbes, same.symm⟩

theorem nodesProbed {t : Tactic} (all : t.Numbered) : ∀ u ∈ t.withProbes.nodes, u.Probed := by
  induction t using treeInduction with
  | atomic text m =>
    intro u mem
    rw [List.mem_singleton.mp mem]
    trivial
  | sequence children m ih =>
    rw [withProbes, nodes, nodesOfFlat, withProbesAllMap, List.flatMap_map]
    refine List.forall_mem_cons.mpr ⟨trivial, fun u mem => ?_⟩
    obtain ⟨t, here, inside⟩ := List.mem_flatMap.mp mem
    exact ih t here (all.child t here) u inside
  | choice number? first rest m ih =>
    obtain ⟨node, rfl, numbered⟩ := all.choice
    rw [withProbes, nodesChoice]
    refine List.forall_mem_cons.mpr ⟨choiceProbed node first rest m, fun u mem => ?_⟩
    obtain ⟨v, here, inside⟩ := List.mem_flatMap.mp mem
    obtain ⟨t, source, place, rfl⟩ := @alternativeMem (some node) 0 (first :: rest) v here
    simp only [probed, nodes, nodesOf, List.append_nil, List.mem_cons, List.mem_append] at inside
    rcases inside with rfl | inside | (rfl | nowhere)
    · trivial
    · exact ih t source (numbered t source) u inside
    · trivial
    · cases nowhere
  | wrap wrapper child m ih =>
    exact List.forall_mem_cons.mpr ⟨trivial, ih all⟩

/-! ### Which probes there are -/

def ownPlaces : Tactic → List Probe
  | .choice (some node) _ rest _ => (List.range (rest.length + 1)).map fun index => (node, index)
  | _ => []

def places (t : Tactic) : List Probe :=
  t.nodes.flatMap ownPlaces

theorem placesSequence (children : List Tactic) (m : Messages) :
    (Tactic.sequence children m).places = children.flatMap places := by
  rw [places, nodes, List.flatMap_cons, nodesOfFlat, List.flatMap_assoc]
  rfl

theorem placesChoice (node : Nat) (first : Tactic) (rest : List Tactic) (m : Messages) :
    (Tactic.choice (some node) first rest m).places =
      (List.range (rest.length + 1)).map (fun index => (node, index)) ++
        (first :: rest).flatMap places := by
  rw [places, nodesChoice, List.flatMap_cons, List.flatMap_assoc]
  rfl

theorem placeNumber {t : Tactic} (all : t.Numbered) {p : Probe} (mem : p ∈ t.places) :
    some p.1 ∈ t.numbers := by
  induction t using treeInduction with
  | atomic text m => cases mem
  | sequence children m ih =>
    rw [placesSequence] at mem
    obtain ⟨t, here, inside⟩ := List.mem_flatMap.mp mem
    rw [numbers, numbersOfFlat]
    exact List.mem_flatMap.mpr ⟨t, here, ih t here (all.child t here) inside⟩
  | choice number? first rest m ih =>
    obtain ⟨node, rfl, numbered⟩ := all.choice
    rw [placesChoice, List.mem_append] at mem
    rw [numbersChoice, List.mem_cons]
    rcases mem with own | inner
    · obtain ⟨index, _, rfl⟩ := List.mem_map.mp own
      exact .inl rfl
    · obtain ⟨t, here, inside⟩ := List.mem_flatMap.mp inner
      exact .inr (List.mem_flatMap.mpr ⟨t, here, ih t here (numbered t here) inside⟩)
  | wrap wrapper child m ih => exact ih all mem

theorem placesDistinct {t : Tactic} (all : t.Numbered) (distinct : t.numbers.Nodup) :
    t.places.Nodup := by
  have parts {ts : List Tactic} (numbered : ∀ t ∈ ts, t.Numbered)
      (each : ∀ t ∈ ts, t.numbers.Nodup → t.places.Nodup) (distinct : (ts.flatMap numbers).Nodup) :
      (ts.flatMap places).Nodup := by
    obtain ⟨own, apart⟩ := List.nodup_flatMap.mp distinct
    refine List.nodup_flatMap.mpr ⟨fun t mem => each t mem (own t mem), ?_⟩
    refine apart.imp_of_mem fun {t u} left right disjoint p here there => ?_
    exact disjoint (placeNumber (numbered t left) here) (placeNumber (numbered u right) there)
  induction t using treeInduction with
  | atomic text m => exact List.nodup_nil
  | sequence children m ih =>
    rw [placesSequence]
    rw [numbers, numbersOfFlat] at distinct
    exact parts all.child (fun t mem => ih t mem (all.child t mem)) distinct
  | choice number? first rest m ih =>
    obtain ⟨node, rfl, numbered⟩ := all.choice
    rw [numbersChoice, List.nodup_cons] at distinct
    rw [placesChoice]
    refine List.Nodup.append ?_ (parts numbered (fun t mem => ih t mem (numbered t mem)) distinct.2)
      fun p own inner => ?_
    · exact List.nodup_range.map fun _ _ same => (Prod.mk.inj same).2
    · obtain ⟨index, _, rfl⟩ := List.mem_map.mp own
      obtain ⟨t, here, inside⟩ := List.mem_flatMap.mp inner
      exact distinct.1 (List.mem_flatMap.mpr ⟨t, here, placeNumber (numbered t here) inside⟩)
  | wrap wrapper child m ih => exact ih all distinct

def probeAt (place : Probe) : String :=
  Vocabulary.probe place.1 place.2

theorem atomsWithProbesFrom (node start : Nat) (ts : List Tactic) :
    (atomsOf (withProbesFrom (some node) start ts)).Perm
      ((ts.map withProbes).flatMap atoms ++
        (List.range' start ts.length).map (Vocabulary.probe node)) := by
  induction ts generalizing start with
  | nil => exact .rfl
  | cons t ts ih =>
    have own : (probed (some node) start t.withProbes).atoms =
        t.withProbes.atoms ++ [Vocabulary.probe node start] := rfl
    rw [withProbesFrom, atomsOf, own, List.map_cons, List.flatMap_cons, List.length_cons,
      List.range'_succ, List.map_cons, List.append_assoc, List.append_assoc]
    exact ((ih (start + 1)).cons _).append_left _ |>.trans (List.perm_middle.symm.append_left _)

theorem atomsWithProbes {t : Tactic} (all : t.Numbered) :
    t.withProbes.atoms.Perm (t.atoms ++ t.places.map probeAt) := by
  have parts {ts : List Tactic}
      (each : ∀ t ∈ ts, t.withProbes.atoms.Perm (t.atoms ++ t.places.map probeAt)) :
      ((ts.map withProbes).flatMap atoms).Perm
        (ts.flatMap atoms ++ (ts.flatMap places).map probeAt) := by
    rw [List.flatMap_map, List.map_flatMap]
    exact (List.Perm.flatMap_left ts each).trans (List.flatMap_append_perm ts _ _).symm
  induction t using treeInduction with
  | atomic text m => exact .rfl
  | sequence children m ih =>
    rw [withProbes, atoms, atoms, withProbesAllMap, atomsOfFlat, atomsOfFlat, placesSequence]
    exact parts fun t mem => ih t mem (all.child t mem)
  | choice number? first rest m ih =>
    obtain ⟨node, rfl, numbered⟩ := all.choice
    rw [placesChoice]
    have inside := parts fun t mem => ih t mem (numbered t mem)
    have whole := atomsWithProbesFrom node 0 (first :: rest)
    rw [← List.range_eq_range', List.length_cons] at whole
    have own : ((List.range (rest.length + 1)).map fun index => (node, index)).map probeAt =
        (List.range (rest.length + 1)).map (Vocabulary.probe node) := List.map_map
    rw [List.map_append, own, atoms, atomsOfFlat, ← List.flatMap_cons]
    refine (whole.trans (inside.append_right _)).trans ?_
    rw [List.append_assoc]
    exact List.perm_append_comm.append_left _
  | wrap wrapper child m ih => exact ih all

/-! ### What instrumentation does -/

structure Instruments (t numbered instrumented : Tactic) : Prop where
  shape : numbered.unnumbered = t.unnumbered
  numbers : numbered.numbers = (List.range t.choiceCount).map some
  unprobed : instrumented.withoutProbes = numbered
  kept : instrumented.numbers = numbered.numbers
  probed : ∀ u ∈ instrumented.nodes, u.Probed
  atoms : instrumented.atoms.Perm (numbered.atoms ++ numbered.places.map probeAt)
  once : numbered.places.Nodup

theorem numberedNumbered (t : Tactic) : t.numbered.Numbered := by
  rw [Numbered, (numberedRenumbers t).numbers]
  simp

theorem instruments (t : Tactic) : Instruments t t.instrument.1 t.instrument.2 where
  shape := unnumberedNumber t 0
  numbers := by rw [List.range_eq_range']; exact (numberedRenumbers t).numbers
  unprobed := withoutWithProbes (numberedNumbered t)
  kept := numbersWithProbes t.numbered
  probed := nodesProbed (numberedNumbered t)
  atoms := atomsWithProbes (numberedNumbered t)
  once := placesDistinct (numberedNumbered t) (numberedDistinct t)

theorem instrumentProbesOnce (t : Tactic) :
    Instruments t t.instrument.1 t.instrument.2 ∧
      (∀ node index : Nat, ∀ before after : String, node < Text.word64 → index < Text.word64 →
        Text.contains before Vocabulary.probeMark = false →
        (after.toList.head?.any fun c => c.isDigit || c == '.') = false →
        Vocabulary.readProbe? (before ++ Vocabulary.probeText node index ++ after) =
          some (node, index)) ∧
      t.withChecks.source true = t.source true ∧
      t.withChecks.atoms = t.atoms.flatMap withCheck :=
  ⟨instruments t, fun _ _ _ _ => Vocabulary.readProbeText, sourceWithChecks t, atomsChecked t⟩

def oldNumbers : Tactic :=
  .choice (some 4) (.atomic "apply h")
    [.sequence [.atomic " have H1 := h x", .choice (some 4) (.atomic "assumption") []]]

theorem oldNumbersProbedOnce :
    oldNumbers.instrument.1.numbers = [some 0, some 1] ∧
      oldNumbers.instrument.2.withoutProbes = oldNumbers.numbered ∧
      Vocabulary.readProbe? ("t.lean:3:0: EFFECTIVE CODE n" ++ Vocabulary.probeText 0 1 ++ "\n") =
        some (0, 1) ∧
      oldNumbers.withChecks.atoms =
        ["apply h", "no_meta_vars", " have H1 := h x", "no_meta_vars", "assumption"] := by
  obtain ⟨instruments, read, _, atoms⟩ := instrumentProbesOnce oldNumbers
  exact ⟨instruments.numbers, instruments.unprobed,
    read 0 1 "t.lean:3:0: EFFECTIVE CODE n" "\n" (by decide) (by decide) (by decide +kernel)
      (by decide +kernel), atoms.trans (by decide +kernel)⟩

end Tactic

end ProofTutor
