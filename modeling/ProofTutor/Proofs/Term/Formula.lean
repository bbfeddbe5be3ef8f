import Mathlib.Data.List.Basic
import ProofTutor.Term.Display

/-!
Formulas of atoms, signs before one operand and signs between two. A formula is laid out as a row of
items, where operands that stand in parentheses are groups. All signs of a row bind at least as strongly
as that of the formula, so its weakest signs show the outermost one: the first of them for implications
and powers, the last of them otherwise. Hence formulas with one row differ by reassociation only.
-/
namespace ProofTutor

namespace Kind

def leading : List Kind := [.not,.minus]

def joining : List Kind :=
  [.and,.or,.implies,.iff,.equals,.notEquals,.less,.lessOrEqual,.greater,.greaterOrEqual,.belongs,
    .included,.union,.inter,.setDifference,.sum,.difference,.product,.quotient,.power]

def operators : List Kind := leading ++ joining

def groupsRight (sign : Kind) : Bool :=
  sign == .implies || sign == .power

end Kind

inductive Formula where
  | atom (text : String)
  | unary (sign : Kind) (operand : Formula)
  | binary (sign : Kind) (left right : Formula)
  deriving DecidableEq, Repr

inductive Item where
  | atom (text : String)
  | sign (kind : Kind)
  | group (items : List Item)
  deriving Repr

namespace Formula

def kind : Formula → Kind
  | .atom _ => .constant
  | .unary sign _ => sign
  | .binary sign _ _ => sign

def enclosed (yes : Bool) (items : List Item) : List Item :=
  if yes then [.group items] else items

def items : Formula → List Item
  | .atom text => [.atom text]
  | .unary sign f => .sign sign :: enclosed (sign.parenthesizes f.kind 0 .utf8) f.items
  | .binary sign f g => enclosed (sign.parenthesizes f.kind 0 .utf8) f.items ++
      .sign sign :: enclosed (sign.parenthesizes g.kind 1 .utf8) g.items

def operand (parent : Kind) (index : Nat) (f : Formula) : List Item :=
  enclosed (parent.parenthesizes f.kind index .utf8) f.items

inductive Reassociated : Formula → Formula → Prop where
  | refl (f : Formula) : Reassociated f f
  | symm {f g : Formula} (same : Reassociated f g) : Reassociated g f
  | trans {f g h : Formula} (first : Reassociated f g) (second : Reassociated g h) : Reassociated f h
  | unary {f g : Formula} (sign : Kind) (same : Reassociated f g) :
      Reassociated (.unary sign f) (.unary sign g)
  | binary {f f' g g' : Formula} (sign : Kind) (left : Reassociated f f') (right : Reassociated g g') :
      Reassociated (.binary sign f g) (.binary sign f' g')
  | assoc {sign : Kind} (associative : sign.isAssociative = true) (f g h : Formula) :
      Reassociated (.binary sign (.binary sign f g) h) (.binary sign f (.binary sign g h))

def Lettered (text : String) : Prop :=
  text.toList ≠ [] ∧ ∀ c ∈ text.toList, Text.isAlphanumeric c = true

inductive Proper : Formula → Prop where
  | atom {text : String} (lettered : Lettered text) : Proper (.atom text)
  | unary {sign : Kind} {f : Formula} (own : sign ∈ Kind.leading) (below : Proper f) :
      Proper (.unary sign f)
  | binary {sign : Kind} {f g : Formula} (own : sign ∈ Kind.joining) (left : Proper f)
      (right : Proper g) : Proper (.binary sign f g)

/-! ### Parentheses -/

theorem leadingOperates {sign : Kind} (leads : sign ∈ Kind.leading) : sign ∈ Kind.operators :=
  List.mem_append_left _ leads

theorem joiningOperates {sign : Kind} (joins : sign ∈ Kind.joining) : sign ∈ Kind.operators :=
  List.mem_append_right _ joins

theorem parenthesizesOperator {sign : Kind} (operates : sign ∈ Kind.operators) (child : Kind)
    (index : Nat) (format : Format) : sign.parenthesizes child index format =
      if 200 ≤ child.strength then false
      else if child.strength < sign.strength then true
      else if sign.strength < child.strength then false
      else sign.parenthesizesEqual child index := by
  cases sign
  all_goals first
    | rfl
    | exact absurd operates (by decide)

theorem operatorStrength : ∀ sign ∈ Kind.operators, sign.strength < 200 := by
  decide

theorem operandBare {sign child : Kind} (operates : sign ∈ Kind.operators) {index : Nat}
    (bare : sign.parenthesizes child index .utf8 = false) : sign.strength < child.strength ∨
      child.strength = sign.strength ∧ sign.parenthesizesEqual child index = false := by
  have bound := operatorStrength sign operates
  rw [parenthesizesOperator operates] at bare
  split at bare
  · exact .inl (by omega)
  · split at bare
    · cases bare
    · split at bare
      · exact .inl ‹_›
      · exact .inr ⟨by omega,bare⟩

theorem operandStrict {sign child : Kind} (joins : sign ∈ Kind.joining)
    (bare : sign.parenthesizes child (if sign.groupsRight then 0 else 1) .utf8 = false) :
    sign.strength < child.strength ∨ sign.isAssociative = true ∧ child = sign := by
  refine (operandBare (joiningOperates joins) bare).imp_right fun ⟨_, equal⟩ => ?_
  revert equal
  cases sign
  all_goals first
    | exact absurd joins (by decide)
    | simp [Kind.groupsRight, Kind.parenthesizesEqual, Kind.isAssociative]

theorem joiningLevel : ∀ sign ∈ Kind.joining, ∀ sign' ∈ Kind.joining,
    sign.strength = sign'.strength → sign.groupsRight = sign'.groupsRight := by
  decide +kernel

theorem leadingLevel : ∀ sign ∈ Kind.leading, ∀ sign' ∈ Kind.operators,
    sign.strength = sign'.strength → sign = sign' := by
  decide +kernel

theorem groupsRightApart (sign : Kind) (right : sign.groupsRight = true) :
    ¬ sign.isAssociative = true := by
  cases sign
  all_goals first
    | decide
    | exact absurd right (by decide)

theorem leadingApart : ∀ sign ∈ Kind.leading, sign ∉ Kind.joining := by
  decide

/-! ### The signs of a row -/

theorem signInOperand {parent sign : Kind} {f : Formula} {index : Nat}
    (mem : Item.sign sign ∈ f.operand parent index) :
    parent.parenthesizes f.kind index .utf8 = false ∧ Item.sign sign ∈ f.items := by
  rw [operand, enclosed] at mem
  split at mem
  · simp at mem
  · rename_i bare
    exact ⟨by simpa using bare,mem⟩

theorem signLevel {f : Formula} (proper : f.Proper) {sign : Kind} (mem : Item.sign sign ∈ f.items) :
    f.kind.strength ≤ sign.strength := by
  induction proper with
  | atom => simp [items] at mem
  | @unary parent f own _ ih =>
    rcases List.mem_cons.mp mem with same | below
    · cases same
      exact Nat.le_refl _
    · obtain ⟨bare, inside⟩ := signInOperand below
      have stronger := operandBare (leadingOperates own) bare
      have level := ih inside
      rw [kind]
      omega
  | @binary parent f g own _ _ left right =>
    have level {h : Formula} {index : Nat} (below : Item.sign sign ∈ h.operand parent index)
        (ih : Item.sign sign ∈ h.items → h.kind.strength ≤ sign.strength) :
        parent.strength ≤ sign.strength := by
      obtain ⟨bare, inside⟩ := signInOperand below
      have stronger := operandBare (joiningOperates own) bare
      have level := ih inside
      omega
    rcases List.mem_append.mp mem with before | after
    · exact level before left
    · rcases List.mem_cons.mp after with same | behind
      · cases same
        exact Nat.le_refl _
      · exact level behind right

theorem ownSign (f : Formula) : (∃ text, f = .atom text) ∨ Item.sign f.kind ∈ f.items := by
  cases f with
  | atom text => exact .inl ⟨text,rfl⟩
  | unary sign f => exact .inr List.mem_cons_self
  | binary sign f g => exact .inr (List.mem_append_right _ List.mem_cons_self)

/-! ### Reassociation -/

theorem Reassociated.row {f g : Formula} (same : Reassociated f g) :
    f.kind = g.kind ∧ f.items = g.items := by
  induction same with
  | refl f => exact ⟨rfl,rfl⟩
  | symm _ ih => exact ⟨ih.1.symm,ih.2.symm⟩
  | trans _ _ first second => exact ⟨first.1.trans second.1,first.2.trans second.2⟩
  | unary sign _ ih => exact ⟨rfl,by rw [items, items, ih.1, ih.2]⟩
  | binary sign _ _ left right =>
    exact ⟨rfl,by rw [items, items, left.1, left.2, right.1, right.2]⟩
  | @assoc sign associative f g h =>
    have side (child : Kind) (index : Nat) : sign.parenthesizes child index .utf8 =
        sign.parenthesizes child 0 .utf8 := by
      cases sign
      all_goals first
        | rfl
        | cases associative
    have chained : sign.parenthesizes sign 0 .utf8 = false := by
      cases sign
      all_goals first
        | rfl
        | cases associative
    have own (a b : Formula) : (Formula.binary sign a b).kind = sign := rfl
    have bare (items : List Item) : enclosed false items = items := rfl
    exact ⟨rfl,by simp [items, own, side _ 1, chained, bare]⟩

def LeftNested : Formula → Prop
  | .atom _ => True
  | .unary _ f => f.LeftNested
  | .binary sign f g => f.LeftNested ∧ g.LeftNested ∧ (sign.isAssociative = true → g.kind ≠ sign)

def join (sign : Kind) (f : Formula) : Formula → Formula
  | .binary other g h =>
    if other = sign then .binary sign (join sign f g) h else .binary sign f (.binary other g h)
  | g => .binary sign f g

def leftNest : Formula → Formula
  | .atom text => .atom text
  | .unary sign f => .unary sign f.leftNest
  | .binary sign f g =>
    if sign.isAssociative then join sign f.leftNest g.leftNest
    else .binary sign f.leftNest g.leftNest

structure Nested (f nested : Formula) : Prop where
  same : Reassociated nested f
  proper : nested.Proper
  left : nested.LeftNested

theorem joinNested {sign : Kind} (joins : sign ∈ Kind.joining) (associative : sign.isAssociative = true)
    {f g : Formula} (properLeft : f.Proper) (left : f.LeftNested) (proper : g.Proper)
    (right : g.LeftNested) : Nested (.binary sign f g) (join sign f g) := by
  induction proper with
  | atom lettered =>
    refine ⟨.refl _,.binary joins properLeft (.atom lettered),left,right,fun _ same => ?_⟩
    obtain rfl : Kind.constant = sign := same
    exact absurd joins (by decide)
  | @unary other _ own below =>
    refine ⟨.refl _,.binary joins properLeft (.unary own below),left,right,fun _ same => ?_⟩
    obtain rfl : other = sign := same
    exact leadingApart other own joins
  | @binary other g h own first second ih _ =>
    obtain ⟨nested, nested', apart⟩ := right
    rw [join]
    split
    · rename_i same
      subst same
      obtain ⟨same, proper, inner⟩ := ih nested
      exact ⟨.trans (.binary other same (.refl h)) (.assoc associative f g h),
        .binary joins proper second,inner,nested',apart⟩
    · exact ⟨.refl _,.binary joins properLeft (.binary own first second),left,⟨nested,nested',apart⟩,
        fun _ => ‹_›⟩

theorem leftNested {f : Formula} (proper : f.Proper) : Nested f f.leftNest := by
  induction proper with
  | atom lettered => exact ⟨.refl _,.atom lettered,trivial⟩
  | @unary sign f own _ ih => exact ⟨.unary sign ih.same,.unary own ih.proper,ih.left⟩
  | @binary sign f g own _ _ first second =>
    have parts := Reassociated.binary sign first.same second.same
    rw [leftNest]
    split
    · rename_i associative
      have joined := joinNested own associative first.proper first.left second.proper second.left
      exact ⟨joined.same.trans parts,joined.proper,joined.left⟩
    · rename_i other
      exact ⟨parts,.binary own first.proper second.proper,first.left,second.left,
        fun associative => absurd associative other⟩

/-! ### Rows read back -/

section Split
variable {α : Type} {p : α → Prop} {xs ys zs ws : List α} {x y : α}

theorem firstSplit (here : p x) (there : p y) (before : ∀ z ∈ xs, ¬ p z) (before' : ∀ z ∈ ys, ¬ p z)
    (same : xs ++ x :: zs = ys ++ y :: ws) : xs = ys ∧ x = y ∧ zs = ws := by
  induction xs generalizing ys with
  | nil =>
    cases ys with
    | nil =>
      obtain ⟨rfl, rfl⟩ := List.cons.inj same
      exact ⟨rfl,rfl,rfl⟩
    | cons z ys =>
      obtain ⟨rfl, _⟩ := List.cons.inj same
      exact absurd here (before' x List.mem_cons_self)
  | cons z xs ih =>
    obtain ⟨first, others⟩ := List.forall_mem_cons.mp before
    cases ys with
    | nil =>
      obtain ⟨rfl, _⟩ := List.cons.inj same
      exact absurd there first
    | cons z' ys =>
      obtain ⟨rfl, rest⟩ := List.cons.inj same
      obtain ⟨rfl, equal, after⟩ := ih others (List.forall_mem_cons.mp before').2 rest
      exact ⟨rfl,equal,after⟩

theorem lastSplit (here : p x) (there : p y) (after : ∀ z ∈ zs, ¬ p z) (after' : ∀ z ∈ ws, ¬ p z)
    (same : xs ++ x :: zs = ys ++ y :: ws) : xs = ys ∧ x = y ∧ zs = ws := by
  have reversed := congrArg List.reverse same
  simp only [List.reverse_append, List.reverse_cons, List.append_assoc, List.cons_append,
    List.nil_append] at reversed
  obtain ⟨right, equal, left⟩ := firstSplit here there (by simpa using after) (by simpa using after')
    reversed
  exact ⟨List.reverse_inj.mp left,equal,List.reverse_inj.mp right⟩

end Split

theorem rowNotGroup (f : Formula) (inner : List Item) : f.items ≠ [.group inner] := by
  intro same
  rcases ownSign f with ⟨text, rfl⟩ | own
  · simp [items] at same
  · rw [same] at own
    simp at own

theorem operandOnce {parent : Kind} {index : Nat} {f g : Formula}
    (once : f.items = g.items → f = g) (same : f.operand parent index = g.operand parent index) :
    f = g := by
  simp only [operand, enclosed] at same
  split at same <;> split at same
  · simp only [List.cons.injEq, Item.group.injEq, and_true] at same
    exact once same
  · exact absurd same.symm (rowNotGroup g _)
  · exact absurd same (rowNotGroup f _)
  · exact once same

def HasStrength (strength : Nat) (item : Item) : Prop :=
  ∃ sign : Kind, item = .sign sign ∧ sign.strength = strength

theorem weakest {f g : Formula} (proper : f.Proper) (proper' : g.Proper) (same : f.items = g.items)
    (own : Item.sign f.kind ∈ f.items) (own' : Item.sign g.kind ∈ g.items) :
    f.kind.strength = g.kind.strength :=
  Nat.le_antisymm (signLevel proper (same ▸ own')) (signLevel proper' (same ▸ own))

theorem strictSide {sign : Kind} (joins : sign ∈ Kind.joining) {f : Formula} (proper : f.Proper)
    (apart : sign.isAssociative = true → f.kind ≠ sign) :
    ∀ item ∈ f.operand sign (if sign.groupsRight then 0 else 1), ¬ HasStrength sign.strength item := by
  rintro _ mem ⟨other, rfl, strength⟩
  obtain ⟨bare, inside⟩ := signInOperand mem
  have level := signLevel proper inside
  rcases operandStrict joins bare with stronger | ⟨associative, same⟩
  · omega
  · exact apart associative same

theorem rowOnce {f : Formula} (proper : f.Proper) : ∀ g : Formula, g.Proper → f.LeftNested →
    g.LeftNested → f.items = g.items → f = g := by
  induction proper with
  | @atom text _ =>
    intro g _ _ _ same
    rcases ownSign g with ⟨text', rfl⟩ | own
    · simpa [items] using same
    · rw [← same] at own
      simp [items] at own
  | @unary sign f leads below ih =>
    intro g proper' left left' same
    have own : Item.sign sign ∈ (Formula.unary sign f).items := List.mem_cons_self
    cases proper' with
    | atom => simp [items] at same
    | @unary sign' g _ below' =>
      obtain ⟨first, rest⟩ := List.cons.inj same
      cases first
      rw [operandOnce (ih g below' left left') rest]
    | @binary sign' g h joins first second =>
      have level := weakest (.unary leads below) (.binary joins first second) same own
        (List.mem_append_right _ List.mem_cons_self)
      obtain rfl : sign = sign' := leadingLevel sign leads sign' (joiningOperates joins) level
      exact absurd joins (leadingApart sign leads)
  | @binary sign f g joins first second ihLeft ihRight =>
    intro h proper' left left' same
    have own : Item.sign sign ∈ (Formula.binary sign f g).items :=
      List.mem_append_right _ List.mem_cons_self
    cases proper' with
    | atom =>
      rw [same] at own
      simp [items] at own
    | @unary sign' h leads below =>
      have level := weakest (.binary joins first second) (.unary leads below) same own
        List.mem_cons_self
      obtain rfl : sign' = sign := leadingLevel sign' leads sign (joiningOperates joins) level.symm
      exact absurd joins (leadingApart sign' leads)
    | @binary sign' f' g' joins' first' second' =>
      have level : sign.strength = sign'.strength := weakest (.binary joins first second)
        (.binary joins' first' second') same own (List.mem_append_right _ List.mem_cons_self)
      have grouped := joiningLevel sign joins sign' joins' level
      have here : HasStrength sign.strength (.sign sign) := ⟨sign,rfl,rfl⟩
      have there : HasStrength sign.strength (.sign sign') := ⟨sign',rfl,level.symm⟩
      have parts : f.operand sign 0 = f'.operand sign' 0 ∧ Item.sign sign = .sign sign' ∧
          g.operand sign 1 = g'.operand sign' 1 := by
        by_cases right : sign.groupsRight = true
        · -- a sign that is read as the first of its strength is not associative
          have strict {other : Kind} (joins : other ∈ Kind.joining) (right : other.groupsRight = true)
              {f : Formula} (proper : f.Proper) := strictSide joins proper fun associative =>
            absurd associative (groupsRightApart other right)
          have before := strict joins right first
          have before' := strict joins' (grouped ▸ right) first'
          rw [if_pos right] at before
          rw [if_pos (grouped ▸ right), ← level] at before'
          exact firstSplit here there before before' same
        · have after := strictSide joins second left.2.2
          have after' := strictSide joins' second' left'.2.2
          rw [if_neg right] at after
          rw [if_neg (grouped ▸ right), ← level] at after'
          exact lastSplit here there after after' same
      obtain ⟨before, sign, after⟩ := parts
      cases sign
      rw [operandOnce (ihLeft f' first' left.1 left'.1) before,
        operandOnce (ihRight g' second' left.2.1 left'.2.1) after]

theorem rowReassociated {f g : Formula} (proper : f.Proper) (proper' : g.Proper) :
    f.items = g.items ↔ Reassociated f g := by
  refine ⟨fun same => ?_,fun same => same.row.2⟩
  have nested := leftNested proper
  have nested' := leftNested proper'
  have rows : f.leftNest.items = g.leftNest.items :=
    (nested.same.row.2.trans same).trans nested'.same.row.2.symm
  have equal := rowOnce nested.proper g.leftNest nested'.proper nested.left nested'.left rows
  exact nested.same.symm.trans (equal ▸ nested'.same)

end Formula

end ProofTutor
