import ProofTutor.Proofs.Tactic.Offers
import ProofTutor.Step.Build

/-! What an action is answered with. The code of a plan is one instruction, two in a row, or a
choice between a few ways to go on, and the counter of the hypothesis names moves with the names
in it. -/
namespace ProofTutor

inductive Instruction where
  | intro (name : String)
  | byContradiction (name : String)
  | byCases (name property : String)
  | cases (hypothesis first second : String)
  | assert (name value : String)
  | other (text : String)
  deriving DecidableEq

namespace Instruction

def text : Instruction → String
  | .intro name => "intro " ++ name
  | .byContradiction name => "by_contradiction " ++ name
  | .byCases name property => "by_cases " ++ name ++ " : (" ++ property ++ ")"
  | .cases hypothesis first second => "cases " ++ hypothesis ++ " with " ++ first ++ " " ++ second
  | .assert name value => "have " ++ name ++ " := " ++ value
  | .other text => text

theorem textAssert (name value : String) :
    (Instruction.assert name value).text = "have " ++ name ++ " := " ++ value := rfl

theorem textOther (text : String) : (Instruction.other text).text = text := rfl

def names : Instruction → List String
  | .intro name | .byContradiction name | .byCases name _ | .assert name _ => [name]
  | .cases _ first second => [first, second]
  | .other _ => []

def introducers : List String :=
  ["intro ", "by_contradiction ", "by_cases ", "cases ", "have "]

def bare : List String :=
  ["split", "left", "right", "refl", "push_neg", "assumption", "contradiction", "norm_num",
    "linarith"]

def leading : List String :=
  ["use ", "apply ", "exact ", "rw ", "clear ", "push_neg at "]

/-- The text is that of a tactic that introduces no name: one of these words, or one of these and
what it is applied to. -/
def Plain (text : String) : Prop :=
  text ∈ bare ∨ ∃ word ∈ leading, Text.begins text word

instance (text : String) : Decidable (Plain text) :=
  inferInstanceAs (Decidable (text ∈ bare ∨ ∃ word ∈ leading, Text.begins text word))

def Silent (word : String) : Prop :=
  ∀ introducer ∈ introducers,
    ¬ introducer.toList <+: word.toList ∧ ¬ word.toList <+: introducer.toList

instance (word : String) : Decidable (Silent word) :=
  inferInstanceAs (Decidable (∀ introducer ∈ introducers, _ ∧ _))

theorem silentStarts {word text : String} (begun : Text.begins text word) (silent : Silent word) :
    ∀ introducer ∈ introducers, Text.begins text introducer = false := by
  intro introducer mem
  refine Bool.eq_false_iff.mpr fun introduces => ?_
  have starts := Text.headSome.mp begun
  rcases List.prefix_or_prefix_of_prefix (Text.headSome.mp introduces) starts with shorter | longer
  · exact (silent introducer mem).1 shorter
  · exact (silent introducer mem).2 longer

theorem Plain.silent {text : String} (plain : Plain text) :
    ∀ introducer ∈ introducers, Text.begins text introducer = false := by
  rcases plain with whole | ⟨word, leads, begun⟩
  · have each : ∀ text ∈ bare, ∀ introducer ∈ introducers, Text.begins text introducer = false := by
      decide
    exact each text whole
  · have each : ∀ word ∈ leading, Silent word := by decide
    exact silentStarts begun (each word leads)

theorem plainWord {word : String} (rest : String) (leads : word ∈ leading) : Plain (word ++ rest) :=
  .inr ⟨word,leads,Text.headSome.mpr (Text.startsWord word rest)⟩

theorem plainRewriteAt (h k : String) : Plain ("rw " ++ h ++ " at " ++ k) := by
  rw [String.append_assoc, String.append_assoc]
  exact plainWord _ (by decide)

theorem plainRewritten (arrow h k : String) : Plain ("rw " ++ arrow ++ h ++ " at " ++ k) := by
  rw [String.append_assoc, String.append_assoc, String.append_assoc]
  exact plainWord _ (by decide)

theorem plainBackwards (h : String) : Plain ("rw ← " ++ h) := by
  have word : "rw ← " = "rw " ++ "← " := rfl
  rw [word, String.append_assoc]
  exact plainWord _ (by decide)

theorem plainAbsurd (x y : String) : Plain ("exact absurd " ++ x ++ " " ++ y) := by
  have word : "exact absurd " = "exact " ++ "absurd " := rfl
  rw [word, String.append_assoc, String.append_assoc, String.append_assoc]
  exact plainWord _ (by decide)

end Instruction

namespace Workbench

def newHypotheses (w : Workbench) : String × String × Nat :=
  let (first, counter) := w.newHypothesis
  let (second, counter) := { w with counter }.newHypothesis
  (first, second, counter)

inductive Alone (w : Workbench) (a : Action) : Instruction → Nat → Prop
  | introObject (button : a.button = some .universal) :
      Alone w a (.intro (w.newObject (w.goal.target.boundName?.getD "x"))) w.counter
  | intro {new : String} {counter : Nat} (button : a.button ∈ [some .implies, some .not])
      (minted : w.newHypothesis = (new, counter)) : Alone w a (.intro new) counter
  | byContradiction {new : String} {counter : Nat} (button : a.button = some .contradiction)
      (minted : w.newHypothesis = (new, counter)) : Alone w a (.byContradiction new) counter
  | byCases {new : String} {counter : Nat} (button : a.button = some .cases)
      (minted : w.newHypothesis = (new, counter)) (property : String) :
      Alone w a (.byCases new property) counter
  | assert {new : String} {counter : Nat}
      (button : a.button ∈ [some .universal, some .implies, some .and, none])
      (minted : w.newHypothesis = (new, counter)) (value : String) :
      Alone w a (.assert new value) counter
  | witness {h : Entry} {new : String} {counter : Nat} (button : a.button = some .existential)
      (found : w.selected a = .ok [h]) (minted : w.newHypothesis = (new, counter)) :
      Alone w a (.cases h.name (w.newObject (h.type.boundName?.getD "x")) new) counter
  | conjuncts {h : Entry} {first second : String} {counter : Nat} (button : a.button = some .and)
      (found : w.selected a = .ok [h]) (minted : w.newHypotheses = (first, second, counter)) :
      Alone w a (.cases h.name first second) counter
  | disjuncts {h : Entry} {new : String} {counter : Nat} (button : a.button = some .or)
      (found : w.selected a = .ok [h]) (minted : w.newHypothesis = (new, counter)) :
      Alone w a (.cases h.name new new) counter
  | plain {text : String} (plain : Instruction.Plain text) : Alone w a (.other text) w.counter
  | code (text : String) (button : a.button = some .code) : Alone w a (.other text) w.counter

inductive Answer (w : Workbench) (a : Action) : Tactic → Nat → Prop
  | alone {c : Instruction} {counter : Nat} (alone : Alone w a c counter) {text : String}
      (same : text = c.text) (success : String) : Answer w a (tactic text success) counter
  | implications {first second : String} {counter : Nat} (button : a.button = some .iff)
      (minted : w.newHypotheses = (first, second, counter)) (h success : String) :
      Answer w a
        (.sequence
          [.atomic ("have " ++ first ++ " := " ++ h ++ ".mp"),
            .atomic ("have " ++ second ++ " := " ++ h ++ ".mpr")]
          { success := some success })
        counter
  | negation {new : String} {counter : Nat} (button : a.button = some .not)
      (minted : w.newHypothesis = (new, counter)) (pushed added : String) :
      Answer w a (.choice none (tactic "push_neg" pushed) [tactic ("intro " ++ new) added]) counter
  | rewriting (h success : String) :
      Answer w a (.choice none (tactic ("rw " ++ h) success) [tactic ("rw ← " ++ h) success])
        w.counter
  | substitution (button : a.button = some .equal) (h : String) {k : String}
      (mem : k ∈ w.goal.names) :
      Answer w a
        (.choice none (useEquation h k (Naming.primedName k w.goal.names) "")
          [useEquation h k (Naming.primedName k w.goal.names) "← "])
        w.counter
  | absurdity (x y success : String) :
      Answer w a
        (.choice none (.atomic ("exact absurd " ++ x ++ " " ++ y))
          [.atomic ("exact absurd " ++ y ++ " " ++ x)] { success := some success })
        w.counter
  | closing (success : String) :
      Answer w a
        (.choice none (.atomic "assumption")
          [.atomic "contradiction", (Tactic.atomic "norm_num").solve1, .atomic "linarith"]
          { success := some success })
        w.counter
  | definition (name defined applied : String) :
      Answer w a (.choice none (tactic ("rw " ++ name) defined) [tactic ("apply " ++ name) applied])
        w.counter
  | definitionAt {new : String} {counter : Nat} (button : a.button = none)
      (minted : w.newHypothesis = (new, counter)) (name h defined added : String) :
      Answer w a
        (.choice none (tactic ("rw " ++ name ++ " at " ++ h) defined)
          [tactic ("have " ++ new ++ " := " ++ name ++ " " ++ h) added])
        counter

def Yields (w : Workbench) (P : Tactic → Nat → Prop) (counter : Nat) (b : Minting Plan) : Prop :=
  match b.run.run counter with
  | (.ok plan, after) => P plan.code after
  | (.error _, after) => after = w.counter

section Yields
variable {w : Workbench} {P : Tactic → Nat → Prop} {counter : Nat}

theorem yieldsPlan {plan : Plan} (holds : P plan.code counter) :
    Yields w P counter (return plan) := holds

theorem yieldsRefusal (refusal : Refusal) : Yields w P w.counter (throw refusal) := rfl

theorem yieldsBind {α : Type} {found : Except Refusal α} {f : α → Minting Plan}
    (each : ∀ x, found = .ok x → Yields w P w.counter (f x)) :
    Yields w P w.counter (liftM found >>= f) := by
  cases found with
  | error refusal => exact yieldsRefusal refusal
  | ok x => exact each x rfl

theorem yieldsMint {f : String → Minting Plan}
    (each : ∀ new after, { w with counter }.newHypothesis = (new, after) →
      Yields w P after (f new)) : Yields w P counter (w.mint >>= f) :=
  each _ _ rfl

theorem yieldsIte {c : Prop} [Decidable c] {a b : Minting Plan} (left : Yields w P counter a)
    (right : Yields w P counter b) : Yields w P counter (if c then a else b) := by
  split
  · exact left
  · exact right

end Yields

theorem foundKnown {w : Workbench} {s : String} {e : Entry} (found : w.find s = .ok e) :
    e ∈ w.goal.context := by
  rw [find] at found
  split at found
  · rename_i entry known
    cases found
    rcases Option.or_eq_some_iff.mp known with here | ⟨_, here⟩
    · exact List.mem_of_find?_eq_some here
    · exact List.mem_of_find?_eq_some here
  · cases found

theorem selectedKnown {w : Workbench} {a : Action} {entries : List Entry}
    (found : w.selected a = .ok entries) : ∀ e ∈ entries, e ∈ w.goal.context := by
  rw [selected] at found
  generalize a.selection = selection at found
  induction selection generalizing entries with
  | nil =>
    cases found
    simp
  | cons s rest ih =>
    rw [List.mapM_cons] at found
    cases here : w.find s with
    | error refusal =>
      rw [here] at found
      cases found
    | ok e =>
      cases later : rest.mapM w.find with
      | error refusal =>
        rw [here, later] at found
        cases found
      | ok es =>
        rw [here, later] at found
        cases found
        exact List.forall_mem_cons.mpr ⟨foundKnown here, ih later⟩

/-! ### The builders -/

section Builders
variable (w : Workbench) (a : Action)

variable {w a} in
theorem yieldsAssert {new : String} {counter : Nat}
    (button : a.button ∈ [some .universal, some .implies, some .and, none])
    (minted : w.newHypothesis = (new, counter)) {value text success : String}
    (same : text = "have " ++ new ++ " := " ++ value) :
    Yields w (Answer w a) counter (plan (tactic text success)) :=
  yieldsPlan (.alone (.assert button minted value) same success)

variable {w a} in
theorem yieldsPlain {text success : String} {kind : SubgoalKind} {branches : List Branch}
    (plain : Instruction.Plain text) :
    Yields w (Answer w a) w.counter (return { code := tactic text success, kind, branches }) :=
  yieldsPlan (.alone (.plain plain) rfl success)

variable {w} in
theorem mintedTogether {first second : String} {middle counter : Nat}
    (minted : w.newHypothesis = (first, middle))
    (minted' : { w with counter := middle }.newHypothesis = (second, counter)) :
    w.newHypotheses = (first, second, counter) := by
  simp only [newHypotheses, minted, minted']

theorem universalAnswer (button : a.button = some .universal) :
    Yields w (Answer w a) w.counter (w.universal a) := by
  refine yieldsBind fun entries _ => ?_
  split
  · exact yieldsIte (yieldsRefusal _) (yieldsPlan (.alone (.introObject button) rfl _))
  · refine yieldsIte (yieldsRefusal _) ?_
    split
    · exact yieldsRefusal _
    · refine yieldsMint fun new counter minted => ?_
      exact yieldsAssert (by simp [button]) minted (by simp only [String.append_assoc]; rfl)
  · refine yieldsIte ?_ (yieldsIte ?_ (yieldsRefusal _))
    · refine yieldsMint fun new counter minted => ?_
      exact yieldsAssert (by simp [button]) minted (by simp only [String.append_assoc]; rfl)
    · refine yieldsMint fun new counter minted => ?_
      exact yieldsAssert (by simp [button]) minted (by simp only [String.append_assoc]; rfl)
  · exact yieldsRefusal _

theorem existentialAnswer (button : a.button = some .existential) :
    Yields w (Answer w a) w.counter (w.existential a) := by
  refine yieldsBind fun entries found => ?_
  split
  · refine yieldsIte (yieldsRefusal _) ?_
    split
    · exact yieldsRefusal _
    · exact yieldsPlain (Instruction.plainWord _ (by decide))
  · refine yieldsIte (yieldsRefusal _) ?_
    refine yieldsMint fun new counter minted => ?_
    exact yieldsPlan (.alone (.witness button found minted) rfl _)
  · exact yieldsRefusal _

theorem impliesAnswer (button : a.button = some .implies) :
    Yields w (Answer w a) w.counter (w.implies a) := by
  refine yieldsBind fun entries _ => ?_
  split
  · refine yieldsIte (yieldsRefusal _) ?_
    refine yieldsMint fun new counter minted => ?_
    exact yieldsPlan (.alone (.intro (by simp [button]) minted) rfl _)
  · split
    · exact yieldsRefusal _
    · exact yieldsPlain (Instruction.plainWord _ (by decide))
  · refine yieldsIte ?_ (yieldsIte ?_ (yieldsRefusal _))
    · refine yieldsMint fun new counter minted => ?_
      exact yieldsAssert (by simp [button]) minted (by simp only [String.append_assoc]; rfl)
    · refine yieldsMint fun new counter minted => ?_
      exact yieldsAssert (by simp [button]) minted (by simp only [String.append_assoc]; rfl)
  · exact yieldsRefusal _

theorem andAnswer (button : a.button = some .and) :
    Yields w (Answer w a) w.counter (w.and a) := by
  refine yieldsBind fun entries found => ?_
  split
  · exact yieldsIte (yieldsRefusal _) (yieldsPlain (by decide))
  · refine yieldsIte (yieldsRefusal _) ?_
    refine yieldsMint fun first middle minted => yieldsMint fun second counter minted' => ?_
    exact yieldsPlan (.alone (.conjuncts button found (mintedTogether minted minted')) rfl _)
  · rename_i x y
    refine yieldsIte (yieldsRefusal _) ?_
    refine yieldsMint fun new counter minted => ?_
    have same : "have " ++ new ++ " := and.intro " ++ x.name ++ " " ++ y.name =
        "have " ++ new ++ " := " ++ ("and.intro " ++ x.name ++ " " ++ y.name) := by
      have word : " := and.intro " = " := " ++ "and.intro " := rfl
      simp only [word, String.append_assoc]
    exact yieldsAssert (by simp [button]) minted same
  · exact yieldsRefusal _

theorem orAnswer (button : a.button = some .or) :
    Yields w (Answer w a) w.counter (w.or a) := by
  refine yieldsBind fun entries found => ?_
  split
  · split
    · exact yieldsRefusal _
    · dsimp only
      split
      · exact yieldsRefusal _
      · exact yieldsPlain (by decide)
      · exact yieldsPlain (by decide)
      · exact yieldsRefusal _
  · refine yieldsIte (yieldsRefusal _) ?_
    refine yieldsMint fun new counter minted => ?_
    exact yieldsPlan (.alone (.disjuncts button found minted) rfl _)
  · exact yieldsRefusal _

theorem notAnswer (button : a.button = some .not) :
    Yields w (Answer w a) w.counter (w.not a) := by
  refine yieldsBind fun entries _ => ?_
  split
  · refine yieldsIte (yieldsRefusal _) ?_
    refine yieldsMint fun new counter minted => ?_
    refine yieldsPlan ?_
    dsimp only
    split
    · exact .negation button minted _ _
    · exact .alone (.intro (by simp [button]) minted) rfl _
  · exact yieldsIte (yieldsRefusal _) (yieldsPlain (Instruction.plainWord _ (by decide)))
  · exact yieldsRefusal _

theorem iffAnswer (button : a.button = some .iff) :
    Yields w (Answer w a) w.counter (w.iff a) := by
  refine yieldsBind fun entries _ => ?_
  split
  · exact yieldsIte (yieldsRefusal _) (yieldsPlain (by decide))
  · refine yieldsIte (yieldsRefusal _) ?_
    refine yieldsMint fun first middle minted => yieldsMint fun second counter minted' => ?_
    exact yieldsPlan (.implications button (mintedTogether minted minted') _ _)
  · exact yieldsRefusal _

theorem equalAnswer (button : a.button = some .equal) :
    Yields w (Answer w a) w.counter (w.equal a) := by
  refine yieldsBind fun entries found => ?_
  split
  · exact yieldsIte (yieldsRefusal _) (yieldsPlain (by decide))
  · exact yieldsIte (yieldsRefusal _) (yieldsPlan (.rewriting _ _))
  · rename_i x y
    have known (e : Entry) (mem : e ∈ [x, y]) : e.name ∈ w.goal.names :=
      List.mem_map_of_mem (selectedKnown found e mem)
    refine yieldsIte ?_ (yieldsIte ?_ (yieldsRefusal _))
    · exact yieldsPlan (.substitution button _ (known y (by simp)))
    · exact yieldsPlan (.substitution button _ (known x (by simp)))
  · exact yieldsRefusal _

theorem contradictionAnswer (button : a.button = some .contradiction) :
    Yields w (Answer w a) w.counter (w.contradiction a) := by
  refine yieldsBind fun entries _ => ?_
  split
  · refine yieldsMint fun new counter minted => ?_
    exact yieldsPlan (.alone (.byContradiction button minted) rfl _)
  · exact yieldsPlan (.absurdity _ _ _)
  · exact yieldsRefusal _

theorem casesAnswer (button : a.button = some .cases) :
    Yields w (Answer w a) w.counter (w.cases a) := by
  refine yieldsIte (yieldsRefusal _) ?_
  split
  · exact yieldsRefusal _
  · refine yieldsMint fun new counter minted => ?_
    exact yieldsPlan (.alone (.byCases button minted _) rfl _)

theorem assumptionAnswer : Yields w (Answer w a) w.counter (w.assumption a) := by
  refine yieldsBind fun entries _ => ?_
  split
  · exact yieldsPlan (.closing _)
  · exact yieldsPlain (Instruction.plainWord _ (by decide))
  · exact yieldsRefusal _

theorem codeAnswer (button : a.button = some .code) :
    Yields w (Answer w a) w.counter (code a) := by
  unfold code
  split
  · exact yieldsRefusal _
  · exact yieldsPlan (.alone (.code _ button) rfl _)

theorem statementAnswer (button : a.button = none) (name : String) :
    Yields w (Answer w a) w.counter (w.statement name a) := by
  refine yieldsBind fun entries _ => ?_
  split
  · exact yieldsPlan (.definition _ _ _)
  · refine yieldsMint fun new counter minted => ?_
    exact yieldsPlan (.definitionAt button minted _ _ _ _)
  · refine yieldsMint fun new counter minted => ?_
    exact yieldsAssert (by simp [button]) minted (by simp only [String.append_assoc]; rfl)

/-- Whatever an action is answered with is one of the codes that plans have, or a refusal before the
first name is minted. -/
theorem draftAnswer : Yields w (Answer w a) w.counter (w.draft a) := by
  unfold draft
  split
  · exact universalAnswer w a ‹_›
  · exact existentialAnswer w a ‹_›
  · exact impliesAnswer w a ‹_›
  · exact andAnswer w a ‹_›
  · exact orAnswer w a ‹_›
  · exact notAnswer w a ‹_›
  · exact iffAnswer w a ‹_›
  · exact equalAnswer w a ‹_›
  · exact contradictionAnswer w a ‹_›
  · exact casesAnswer w a ‹_›
  · exact assumptionAnswer w a
  · exact codeAnswer w a ‹_›
  · exact statementAnswer w a ‹_› _
  · exact yieldsRefusal _

end Builders

section Outcome
variable {w : Workbench} {a : Action} {plan : Plan} {counter : Nat}

theorem yieldsAnswer {P : Tactic → Nat → Prop} (yields : Yields w P w.counter (w.draft a))
    (answered : w.answer a = (.ok plan, counter)) : P plan.code counter := by
  rw [answer] at answered
  rwa [Yields, answered] at yields

theorem refusedCounter {refusal : Refusal} (answered : w.answer a = (.error refusal, counter)) :
    counter = w.counter := by
  have yields := draftAnswer w a
  rw [answer] at answered
  rwa [Yields, answered] at yields

theorem buildPlan : w.build a = .ok (plan, counter) ↔ w.answer a = (.ok plan, counter) := by
  rw [build]
  split
  · rename_i answered
    simp [answered]
  · rename_i answered
    simp [answered]

theorem buildAnswer (built : w.build a = .ok (plan, counter)) : Answer w a plan.code counter :=
  yieldsAnswer (draftAnswer w a) (buildPlan.mp built)

end Outcome

theorem answerFlat {w : Workbench} {a : Action} {code : Tactic} {counter : Nat}
    (answer : Answer w a code counter) : code.Flat := by
  have pair {t u : Tactic} {m : Messages} (left : t.firstChoice? = none)
      (right : u.firstChoice? = none) : (Tactic.choice none t [u] m).Flat :=
    List.forall_mem_cons.mpr ⟨left, List.forall_mem_singleton.mpr right⟩
  cases answer with
  | alone => rfl
  | implications => rfl
  | negation | rewriting | substitution | absurdity | definition | definitionAt =>
    exact pair rfl rfl
  | closing => simp [Tactic.Flat, Tactic.firstChoice?, Tactic.solve1]

end Workbench

end ProofTutor
