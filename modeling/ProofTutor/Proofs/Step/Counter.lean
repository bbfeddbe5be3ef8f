import ProofTutor.Proofs.Step.NamePlaces
import ProofTutor.Proofs.Term.FreshName

/-! The counter of the hypothesis names moves with the names in the code of a step, from one free
number to the next, and a refusal leaves it alone. So the hypotheses in the codes of actions that share
a counter are called by the numbers in between, and no two of them alike. -/
namespace ProofTutor

namespace Naming
variable {forbidden : List String} {counter middle last : Nat}

def untaken (forbidden : List String) (counter last : Nat) : List Nat :=
  (List.range' (counter + 1) (last - counter)).filter fun k => !forbidden.contains (hypothesis k)

theorem untakenWithin {k : Nat} (mem : k ∈ untaken forbidden counter last) :
    counter < k ∧ k ≤ last := by
  have inside := List.mem_range'_1.mp (List.mem_of_mem_filter mem)
  omega

theorem untakenRising : (counter :: untaken forbidden counter last).Pairwise (· < ·) :=
  List.pairwise_cons.mpr
    ⟨fun _ mem => (untakenWithin mem).1, List.Pairwise.filter _ (List.pairwise_lt_range' 1)⟩

theorem untakenSelf : untaken forbidden counter counter = [] := by
  rw [untaken, Nat.sub_self]
  rfl

theorem untakenNext (next : Next forbidden counter last) :
    untaken forbidden counter last = [last] := by
  obtain ⟨n, rfl⟩ := Nat.exists_eq_add_of_lt next.later
  have width : counter + n + 1 - counter = n + 1 := by omega
  have final : counter + 1 + n = counter + n + 1 := by omega
  have before : (List.range' (counter + 1) n).filter
      (fun k => !forbidden.contains (hypothesis k)) = [] := by
    refine List.filter_eq_nil_iff.mpr fun k mem => ?_
    obtain ⟨later, earlier⟩ := List.mem_range'_1.mp mem
    simpa using next.skipped k later (by omega)
  rw [untaken, width, List.range'_1_concat, List.filter_append, before, final]
  simpa using next.free

theorem untakenSplit (first : counter ≤ middle) (second : middle ≤ last) :
    untaken forbidden counter last =
      untaken forbidden counter middle ++ untaken forbidden middle last := by
  obtain ⟨m, rfl⟩ := Nat.exists_eq_add_of_le first
  obtain ⟨n, rfl⟩ := Nat.exists_eq_add_of_le second
  have width : counter + m + n - counter = m + n := by omega
  have start : counter + m + 1 = counter + 1 + m := by omega
  rw [untaken, untaken, untaken, width, Nat.add_sub_cancel_left, Nat.add_sub_cancel_left, start,
    ← List.filter_append, List.range'_append_1]

end Naming

namespace Workbench
variable {w : Workbench} {a : Action} {code : Tactic} {new : String} {names : List String}
  {after : Nat}

def minted (w : Workbench) (after : Nat) : List Nat :=
  Naming.untaken w.goal.names w.counter after

structure Supplied (w : Workbench) (names : List String) (after : Nat) : Prop where
  forward : w.counter ≤ after
  names : names = (w.minted after).map Naming.hypothesis
  last : (w.minted after).getLastD w.counter = after

theorem suppliedNone : w.Supplied [] w.counter where
  forward := Nat.le_refl _
  names := by rw [minted, Naming.untakenSelf]; rfl
  last := by rw [minted, Naming.untakenSelf]; rfl

theorem suppliedOne (supply : w.newHypothesis = (new, after)) : w.Supplied [new] after := by
  obtain ⟨k, name, next⟩ := Naming.hypothesisNameNext w.goal.names w.counter
  rw [newHypothesis, name] at supply
  cases supply
  have numbers : w.minted after = [after] := Naming.untakenNext next
  exact { forward := next.later.le, names := by rw [numbers]; rfl, last := by rw [numbers]; rfl }

theorem suppliedTwo {first second : String} (supply : w.newHypotheses = (first, second, after)) :
    w.Supplied [first, second] after := by
  obtain ⟨k, name, next⟩ := Naming.hypothesisNameNext w.goal.names w.counter
  obtain ⟨l, name', next'⟩ := Naming.hypothesisNameNext w.goal.names k
  simp only [newHypotheses, newHypothesis, name, name'] at supply
  cases supply
  have numbers : w.minted after = [k, after] := by
    rw [minted, Naming.untakenSplit next.later.le next'.later.le, Naming.untakenNext next,
      Naming.untakenNext next']
    rfl
  exact
    { forward := (next.later.trans next'.later).le
      names := by rw [numbers]; rfl
      last := by rw [numbers]; rfl }

/-! ### The names in a code -/

/-- What the introduced names are that are no hypotheses: the variable of the target or of the selected
property with a free name, and the copy of an entry. -/
def Brings (w : Workbench) (a : Action) : Instruction → Prop
  | .intro name =>
    a.button = some .universal → name = w.newObject (w.goal.target.boundName?.getD "x")
  | .cases hypothesis first _ => a.button = some .existential → ∃ h, w.selected a = .ok [h] ∧
    h.name = hypothesis ∧ first = w.newObject (h.type.boundName?.getD "x")
  | .assert name value => a.button = some .equal →
    value ∈ w.goal.names ∧ name = Naming.primedName value w.goal.names
  | .byContradiction _ | .byCases _ _ => True
  | .other text => Instruction.Plain text ∨ a.button = some .code

structure Spells (w : Workbench) (a : Action) (code : Tactic) (instructions : List Instruction) :
    Prop where
  texts : code.atoms = instructions.map Instruction.text
  places : code.hypotheses a.button =
    (instructions.flatMap (Instruction.hypotheses a.button)).dedup
  each : ∀ c ∈ instructions, w.Brings a c

structure Accounts (w : Workbench) (a : Action) (code : Tactic) (after : Nat) : Prop where
  forward : w.counter ≤ after
  names : code.hypotheses a.button = (w.minted after).map Naming.hypothesis
  rising : (w.counter :: w.minted after).Pairwise (· < ·)
  last : (w.minted after).getLastD w.counter = after
  spelled : ∃ instructions, w.Spells a code instructions

theorem Supplied.accounts (supplied : w.Supplied names after) {instructions : List Instruction}
    (texts : code.atoms = instructions.map Instruction.text)
    (places : (instructions.flatMap (Instruction.hypotheses a.button)).dedup = names)
    (each : ∀ c ∈ instructions, w.Brings a c) : w.Accounts a code after := by
  have whole : ∀ name ∈ instructions.flatMap (Instruction.hypotheses a.button),
      ' ' ∉ name.toList := by
    intro name mem
    rw [← List.mem_dedup, places, supplied.names] at mem
    obtain ⟨k, _, rfl⟩ := List.mem_map.mp mem
    exact Naming.hypothesisWhole (by decide) (by decide) k
  have read := Tactic.hypothesesSpelled texts (fun text mem => each _ mem) whole
  exact
    { forward := supplied.forward
      names := read.trans (places.trans supplied.names)
      rising := Naming.untakenRising
      last := supplied.last
      spelled := ⟨instructions, texts, read, each⟩ }

theorem plainAccounts (plain : ∀ text ∈ code.atoms, Instruction.Plain text) :
    w.Accounts a code w.counter := by
  have texts : code.atoms = (code.atoms.map Instruction.other).map Instruction.text := by
    rw [List.map_map]
    exact (List.map_id _).symm
  have places : (code.atoms.map Instruction.other).flatMap (Instruction.hypotheses a.button) = [] := by
    simp [List.flatMap_map, Instruction.hypotheses, Instruction.names, Instruction.amongNone]
  refine suppliedNone.accounts texts (by rw [places, List.dedup_nil]) ?_
  exact List.forall_mem_map.mpr fun text mem => .inl (plain text mem)

theorem oneAccounts {c : Instruction} (texts : code.atoms = [c].map Instruction.text)
    (supplied : w.Supplied names after) (places : (c.hypotheses a.button).dedup = names)
    (brings : w.Brings a c) : w.Accounts a code after := by
  refine supplied.accounts texts ?_ (List.forall_mem_singleton.mpr brings)
  rwa [List.flatMap_singleton]

theorem pairAccounts {c d : Instruction} (texts : code.atoms = [c, d].map Instruction.text)
    (supplied : w.Supplied names after)
    (places : (c.hypotheses a.button ++ d.hypotheses a.button).dedup = names)
    (first : w.Brings a c) (second : w.Brings a d) : w.Accounts a code after := by
  refine supplied.accounts texts ?_
    (List.forall_mem_cons.mpr ⟨first, List.forall_mem_singleton.mpr second⟩)
  rwa [List.flatMap_cons, List.flatMap_singleton]

theorem Supplied.distinct (supplied : w.Supplied names after) : names.dedup = names := by
  have rising : (w.minted after).Nodup :=
    (List.pairwise_cons.mp Naming.untakenRising).2.imp fun less => less.ne
  rw [supplied.names]
  exact (rising.map Naming.hypothesisInjective).dedup

theorem aloneAccounts {c : Instruction} (alone : Alone w a c after)
    (texts : code.atoms = [c].map Instruction.text) : w.Accounts a code after := by
  cases alone with
  | introObject button =>
    exact oneAccounts texts suppliedNone (by rw [button]; rfl) fun _ => rfl
  | intro button supply =>
    refine oneAccounts texts (suppliedOne supply) ?_ fun universal => ?_
    · rcases List.mem_pair.mp button with button | button <;> rw [button] <;> rfl
    · exact absurd (universal ▸ button) (by decide)
  | byContradiction button supply =>
    exact oneAccounts texts (suppliedOne supply) (by rw [button]; rfl) trivial
  | byCases button supply property =>
    exact oneAccounts texts (suppliedOne supply) (by rw [button]; rfl) trivial
  | assert button supply value =>
    refine oneAccounts texts (suppliedOne supply) ?_ fun equal => ?_
    · simp only [List.mem_cons, List.not_mem_nil, or_false] at button
      rcases button with button | button | button | button <;> rw [button] <;> rfl
    · exact absurd (equal ▸ button) (by decide)
  | witness button found supply =>
    -- The object's name is no hypothesis name, even where it reads like one.
    exact oneAccounts texts (suppliedOne supply) (by rw [button]; rfl) fun _ => ⟨_, found, rfl, rfl⟩
  | conjuncts button found supply =>
    have supplied := suppliedTwo supply
    refine oneAccounts texts supplied ?_ fun existential => ?_
    · rw [button]
      exact supplied.distinct
    · cases button.symm.trans existential
  | disjuncts button found supply =>
    -- One name for both branches.
    refine oneAccounts texts (suppliedOne supply) ?_ fun existential => ?_
    · rw [button]
      exact List.dedup_cons_of_mem (List.mem_singleton_self _)
    · cases button.symm.trans existential
  | plain plain => exact plainAccounts (by rw [texts]; exact List.forall_mem_singleton.mpr plain)
  | code text button =>
    exact oneAccounts texts suppliedNone (by rw [button]; rfl) (.inr button)

theorem substitutionAccounts (button : a.button = some .equal) {k : String}
    (mem : k ∈ w.goal.names) (h : String) :
    w.Accounts a
      (.choice none (useEquation h k (Naming.primedName k w.goal.names) "")
        [useEquation h k (Naming.primedName k w.goal.names) "← "])
      w.counter := by
  let copy := Naming.primedName k w.goal.names
  let rewriting (arrow : String) : List Instruction :=
    [.assert copy k, .other ("rw " ++ arrow ++ h ++ " at " ++ copy), .other ("clear " ++ k)]
  have texts : (Tactic.choice none (useEquation h k copy "") [useEquation h k copy "← "]).atoms =
      (rewriting "" ++ rewriting "← ").map Instruction.text := rfl
  have brings (arrow : String) : ∀ c ∈ rewriting arrow, w.Brings a c := by
    refine List.forall_mem_cons.mpr ⟨fun _ => ⟨mem, rfl⟩, List.forall_mem_cons.mpr ⟨.inl ?_, ?_⟩⟩
    · exact Instruction.plainRewritten arrow h copy
    · exact List.forall_mem_singleton.mpr (.inl (Instruction.plainWord k (by decide)))
  refine suppliedNone.accounts texts ?_ (List.forall_mem_append.mpr ⟨brings "", brings "← "⟩)
  rw [button]
  rfl

theorem answerAccounts (answer : Answer w a code after) : w.Accounts a code after := by
  have both {x y : String} (left : Instruction.Plain x) (right : Instruction.Plain y) :
      ∀ text ∈ [x, y], Instruction.Plain text :=
    List.forall_mem_cons.mpr ⟨left, List.forall_mem_singleton.mpr right⟩
  cases answer with
  | alone alone same =>
    subst same
    exact aloneAccounts alone rfl
  | @implications first second _ button supply h success =>
    have texts :
        ["have " ++ first ++ " := " ++ h ++ ".mp", "have " ++ second ++ " := " ++ h ++ ".mpr"] =
        [Instruction.assert first (h ++ ".mp"), .assert second (h ++ ".mpr")].map
          Instruction.text := by
      simp only [List.map_cons, List.map_nil, Instruction.textAssert, String.append_assoc]
    have supplied := suppliedTwo supply
    have other {name value : String} : w.Brings a (.assert name value) := fun equal => by
      cases button.symm.trans equal
    refine pairAccounts texts supplied ?_ other other
    rw [button]
    exact supplied.distinct
  | @negation new _ button supply pushed added =>
    have plain : Instruction.Plain "push_neg" := by decide
    have texts : ["push_neg", "intro " ++ new] =
        [Instruction.other "push_neg", .intro new].map Instruction.text := rfl
    refine pairAccounts texts (suppliedOne supply) (by rw [button]; rfl) (.inl plain)
      fun universal => ?_
    cases button.symm.trans universal
  | rewriting h success =>
    exact plainAccounts (both (Instruction.plainWord h (by decide)) (Instruction.plainBackwards h))
  | substitution button h mem => exact substitutionAccounts button mem h
  | absurdity x y success =>
    exact plainAccounts (both (Instruction.plainAbsurd x y) (Instruction.plainAbsurd y x))
  | closing success =>
    have plain : ∀ text ∈ ["assumption", "contradiction", "norm_num", "linarith"],
        Instruction.Plain text := by decide
    exact plainAccounts plain
  | definition name defined applied =>
    exact plainAccounts
      (both (Instruction.plainWord _ (by decide)) (Instruction.plainWord _ (by decide)))
  | @definitionAt new _ button supply name h defined added =>
    have texts : ["rw " ++ name ++ " at " ++ h, "have " ++ new ++ " := " ++ name ++ " " ++ h] =
        [Instruction.other ("rw " ++ name ++ " at " ++ h), .assert new (name ++ " " ++ h)].map
          Instruction.text := by
      simp only [List.map_cons, List.map_nil, Instruction.textOther, Instruction.textAssert,
        String.append_assoc]
    refine pairAccounts texts (suppliedOne supply) (by rw [button]; rfl)
      (.inl (Instruction.plainRewriteAt name h)) fun equal => ?_
    cases button.symm.trans equal

theorem buildCounter {plan : Plan} {counter : Nat} (built : w.build a = .ok (plan, counter)) :
    w.counter ≤ counter :=
  (answerAccounts (buildAnswer built)).forward

def Steady (w : Workbench) (a : Action) : Except Refusal Plan × Nat → Prop
  | (.error _, after) =>
    after = w.counter ∧ ∀ b : Action, { w with counter := after }.answer b = w.answer b
  | (.ok plan, after) => w.Accounts a plan.code after

theorem steadyAnswer (w : Workbench) (a : Action) : w.Steady a (w.answer a) := by
  rcases answered : w.answer a with ⟨refusal | plan, after⟩
  · cases refusedCounter answered
    exact ⟨rfl, fun _ => rfl⟩
  · exact answerAccounts (buildAnswer (buildPlan.mpr answered))

theorem Steady.moves {outcome : Except Refusal Plan × Nat} (steady : w.Steady a outcome) :
    w.counter ≤ outcome.2 ∧ (w.minted outcome.2).getLastD w.counter = outcome.2 := by
  rcases outcome with ⟨refusal | plan, after⟩
  · obtain ⟨rfl, _⟩ := steady
    exact ⟨Nat.le_refl _, suppliedNone.last⟩
  · have accounts : w.Accounts a plan.code after := steady
    exact ⟨accounts.forward, accounts.last⟩

end Workbench

/-! ### Actions that share a counter -/

structure Proposal where
  goal : Goal
  naming : Naming := {}
  action : Action

namespace Proposal

def bench (p : Proposal) (counter : Nat) : Workbench :=
  { goal := p.goal, naming := p.naming, counter }

def after (p : Proposal) (counter : Nat) : Nat :=
  ((p.bench counter).answer p.action).2

def minted (p : Proposal) (counter : Nat) : List Nat :=
  (p.bench counter).minted (p.after counter)

def names (p : Proposal) (counter : Nat) : List String :=
  match ((p.bench counter).answer p.action).1 with
  | .ok plan => plan.code.hypotheses p.action.button
  | .error _ => []

def namesInTurn (counter : Nat) : List Proposal → List String
  | [] => []
  | p :: rest => p.names counter ++ namesInTurn (p.after counter) rest

def mintedInTurn (counter : Nat) : List Proposal → List Nat
  | [] => []
  | p :: rest => p.minted counter ++ mintedInTurn (p.after counter) rest

def counterAfter (counter : Nat) (proposals : List Proposal) : Nat :=
  proposals.foldl (fun counter p => p.after counter) counter

theorem moves (p : Proposal) (counter : Nat) :
    counter ≤ p.after counter ∧ (p.minted counter).getLastD counter = p.after counter :=
  ((p.bench counter).steadyAnswer p.action).moves

theorem namesMinted (p : Proposal) (counter : Nat) :
    p.names counter = (p.minted counter).map Naming.hypothesis := by
  have steady := (p.bench counter).steadyAnswer p.action
  rw [names, minted, after]
  generalize (p.bench counter).answer p.action = outcome at steady ⊢
  rcases outcome with ⟨refusal | plan, after⟩
  · obtain ⟨rfl, _⟩ := steady
    exact Workbench.suppliedNone.names
  · exact Workbench.Accounts.names steady

theorem namesMintedInTurn (proposals : List Proposal) (counter : Nat) :
    namesInTurn counter proposals = (mintedInTurn counter proposals).map Naming.hypothesis := by
  induction proposals generalizing counter with
  | nil => rfl
  | cons p rest ih => rw [namesInTurn, mintedInTurn, List.map_append, namesMinted, ih]

theorem risingInTurn (proposals : List Proposal) (counter : Nat) :
    (counter :: mintedInTurn counter proposals).Pairwise (· < ·) := by
  induction proposals generalizing counter with
  | nil => exact List.pairwise_singleton _ _
  | cons p rest ih =>
    -- The names of this proposal end at the counter from which those of the rest go on.
    have own : (counter :: p.minted counter).Pairwise (· < ·) := Naming.untakenRising
    obtain ⟨above, rising⟩ := List.pairwise_cons.mp own
    obtain ⟨later, following⟩ := List.pairwise_cons.mp (ih (p.after counter))
    refine List.pairwise_cons.mpr ⟨?_, List.pairwise_append.mpr ⟨rising, following, ?_⟩⟩
    · refine List.forall_mem_append.mpr ⟨above, fun k mem => ?_⟩
      exact (p.moves counter).1.trans_lt (later k mem)
    · exact fun k mem l mem' => (Naming.untakenWithin mem).2.trans_lt (later l mem')

theorem lastInTurn (proposals : List Proposal) (counter : Nat) :
    (mintedInTurn counter proposals).getLastD counter = counterAfter counter proposals := by
  induction proposals generalizing counter with
  | nil => rfl
  | cons p rest ih =>
    have step := (p.moves counter).2
    have run := ih (p.after counter)
    rw [List.getLastD_eq_getLast?] at step run
    rw [mintedInTurn, List.getLastD_eq_getLast?, List.getLast?_append, Option.getD_or, step, run]
    rfl

/-- One answer accounts for its counter, and over any run the hypotheses in the codes are called by the
numbers from one counter to the last, none twice. -/
theorem mintedOnce (w : Workbench) (a : Action) (proposals : List Proposal) (counter : Nat) :
    w.Steady a (w.answer a) ∧
      namesInTurn counter proposals = (mintedInTurn counter proposals).map Naming.hypothesis ∧
      (counter :: mintedInTurn counter proposals).Pairwise (· < ·) ∧
      (mintedInTurn counter proposals).getLastD counter = counterAfter counter proposals ∧
      (namesInTurn counter proposals).Nodup := by
  have rising := risingInTurn proposals counter
  have names := namesMintedInTurn proposals counter
  have distinct : (mintedInTurn counter proposals).Nodup :=
    (List.pairwise_cons.mp rising).2.imp fun less => less.ne
  refine ⟨w.steadyAnswer a, names, rising, lastInTurn proposals counter, ?_⟩
  rw [names]
  exact distinct.map Naming.hypothesisInjective

def asked (inputs : List Input) : Proposal where
  goal :=
    { context :=
        [{ term := .localConstant "H1" "0.H1"
            (.bind .universal (.boundVar "x" 0 .sort) (.leaf .truth)) }],
      target := .leaf .truth }
  action := { selection := ["H1"], button := some .universal, inputs }

-- A refusal before each answer costs no number, and `H1` is taken.
example : namesInTurn 0 [asked [], asked [.text "c"], asked [], asked [.text "d"]] =
    ["H2", "H3"] := by
  decide +kernel

end Proposal

end ProofTutor
