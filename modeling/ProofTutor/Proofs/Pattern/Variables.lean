import ProofTutor.Proofs.Term.Twins
import ProofTutor.Term.Pattern

/-!
Matching does not depend on the choice of bound variables. The runs on two equal terms take the same way
step by step: what they have paired and filled so far differs in the numbers of variables only, also
where a hole took a variable out of its binder.
-/
namespace ProofTutor

namespace Pattern

inductive Neutral : Pattern → Prop where
  | node {kind : Kind} {name : Option String} {children : List Pattern}
      (named : name.isSome → kind = .constant) (below : ∀ p ∈ children, Neutral p) :
      Neutral (.node kind name children)
  | hole (number : Nat) : Neutral (.hole number none)
  | bound (number : Nat) : Neutral (.bound number)
  | exact {t : Term} (labelled : t.Labelled) (closed : t.freeNumbers = []) : Neutral (.exact t)

theorem neutralNode {kind : Kind} {name : Option String} {children : List Pattern} :
    (Pattern.node kind name children).Neutral ↔
      (name.isSome → kind = .constant) ∧ ∀ p ∈ children, p.Neutral :=
  ⟨fun | .node named below => ⟨named,below⟩,fun ⟨named, below⟩ => .node named below⟩

def Paired (same : Nat → Nat → Prop) : List (Nat × Nat) → List (Nat × Nat) → Prop :=
  List.Forall₂ fun p q => p.1 = q.1 ∧ same p.2 q.2

def Assigned (same : Nat → Nat → Prop) : Assignment → Assignment → Prop :=
  List.Forall₂ fun x y => x.1 = y.1 ∧ Term.Twin same x.2 y.2

variable {same : Nat → Nat → Prop}

theorem relCases {α β : Type} {R : α → β → Prop} {x : Option α} {y : Option β}
    (related : Option.Rel R x y) : x = none ∧ y = none ∨ ∃ a b, x = some a ∧ y = some b ∧ R a b := by
  cases related with
  | some pair => exact .inr ⟨_,_,rfl,rfl,pair⟩
  | none => exact .inl ⟨rfl,rfl⟩

theorem relBind {α β γ δ : Type} {R : α → β → Prop} {S : γ → δ → Prop} {x : Option α} {y : Option β}
    {f : α → Option γ} {g : β → Option δ} (related : Option.Rel R x y)
    (next : ∀ a b, R a b → Option.Rel S (f a) (g b)) : Option.Rel S (x.bind f) (y.bind g) := by
  cases related with
  | some pair => exact next _ _ pair
  | none => exact .none

theorem relGuard {α β : Type} {R : α → β → Prop} {a : α} {b : β} {p q : Prop} [Decidable p]
    [Decidable q] (agree : p ↔ q) (related : R a b) :
    Option.Rel R (if p then some a else none) (if q then some b else none) := by
  simp only [agree]
  split
  · exact .some related
  · exact .none

/-! ### Pairs and assignments -/

theorem findRelated {α β : Type} {R : α → β → Prop} {xs : List (Nat × α)} {ys : List (Nat × β)}
    (related : List.Forall₂ (fun x y => x.1 = y.1 ∧ R x.2 y.2) xs ys) (k : Nat) :
    Option.Rel (fun x y => R x.2 y.2) (xs.find? (·.1 == k)) (ys.find? (·.1 == k)) := by
  induction related with
  | nil => exact .none
  | @cons x y xs ys pair others ih =>
    rw [List.find?_cons, List.find?_cons, pair.1]
    cases y.1 == k with
    | true => exact .some pair.2
    | false => exact ih

theorem insertAssigned {A A' : Assignment} {t t' : Term} (assigned : Assigned same A A')
    (twin : Term.Twin same t t') (k : Nat) : Assigned same (A.insert k t) (A'.insert k t') := by
  induction assigned with
  | nil => exact .cons ⟨rfl,twin⟩ .nil
  | @cons x y xs ys pair others ih =>
    obtain ⟨m, s⟩ := x
    obtain ⟨n, s'⟩ := y
    obtain ⟨rfl, other⟩ := pair
    rw [Assignment.insert, Assignment.insert]
    split
    · exact .cons ⟨rfl,twin⟩ (.cons ⟨rfl,other⟩ others)
    · split
      · exact .cons ⟨rfl,twin⟩ others
      · exact .cons ⟨rfl,other⟩ ih

theorem emptyAgree (one : Relator.BiUnique same) (l l' r r' : Nat) (first : same l l')
    (second : same r r') : Term.sameBound [] l r = Term.sameBound [] l' r' := by
  rw [Bool.eq_iff_iff]
  simpa [Term.sameBound] using Relator.rel_eq one first second

theorem fillAssigned (one : Relator.BiUnique same) {A A' : Assignment} {t t' : Term}
    (assigned : Assigned same A A') (twin : Term.Twin same t t') (k : Nat) :
    Option.Rel (Assigned same) (fill k t A) (fill k t' A') := by
  rw [fill, fill, Assignment.find?, Assignment.find?]
  rcases relCases (findRelated assigned k) with ⟨empty, empty'⟩ | ⟨x, y, found, found', filled⟩
  · rw [empty, empty']
    exact .some (insertAssigned assigned twin k)
  · have agree := Term.alphaEqTwins one one _ filled twin fun l _ => emptyAgree one l
    rw [found, found']
    exact relGuard (by rw [Term.alphaEq, Term.alphaEq, agree]) assigned

theorem pairVariablesPaired {P P' : List (Nat × Nat)} {t t' : Term} (paired : Paired same P P')
    (twin : Term.Twin same t t') (kind : Kind) (children : List Pattern) :
    Option.Rel (Paired same) (pairVariables kind children t P) (pairVariables kind children t' P') := by
  rw [pairVariables, pairVariables]
  rcases twin.binds with ⟨free, free'⟩ | ⟨m, n, pair, number, number'⟩
  · rw [free, free']
    cases children[1]? with
    | none => exact .some paired
    | some p => cases p <;> exact .some paired
  · obtain ⟨v, bound, own⟩ := Option.bind_eq_some_iff.mp number
    obtain ⟨w, bound', own'⟩ := Option.bind_eq_some_iff.mp number'
    rw [bound, bound']
    cases children[1]? with
    | none => exact .some paired
    | some p =>
      cases p with
      | bound k =>
        dsimp only
        rw [own, own']
        split
        · exact .some (.cons ⟨rfl,pair⟩ paired)
        · exact .some paired
      | node kind name children => exact .some paired
      | hole k type? => exact .some paired
      | exact e => exact .some paired

/-! ### Two runs -/

theorem nodeAgrees {t t' : Term} (twin : Term.Twin same t t') {kind : Kind} {name : Option String}
    {children : List Pattern} (named : name.isSome → kind = .constant) :
    (t.kind == kind && t.children.length == children.length && (name.isNone || t.name? == name)) =
      (t'.kind == kind && t'.children.length == children.length && (name.isNone || t'.name? == name)) := by
  rw [List.Forall₂.length_eq twin.descend, twin.alike.kind]
  by_cases own : t'.kind = kind
  · cases name with
    | none => rfl
    | some n =>
      have constant : t'.kind = .constant := own.trans (named rfl)
      have constant' : t.kind = .constant := twin.alike.kind.trans constant
      have mark := twin.alike.mark (by simp [constant'])
      have names : t.name? = t'.name? := by simpa [Term.markIn, constant, constant'] using mark
      rw [names]
  · rw [beq_eq_false_iff_ne.mpr own]
    rfl

theorem boundOther {t : Term} (other : t.kind ≠ .boundVar) (k : Nat) (P : List (Nat × Nat))
    (A : Assignment) : (Pattern.bound k).matchIn P t A = none := by
  rw [matchIn]
  split
  · rw [beq_eq_false_iff_ne.mpr other]
    rfl
  · rfl

theorem boundTwins (one : Relator.BiUnique same) {t t' : Term} {P P' : List (Nat × Nat)}
    {A A' : Assignment} (twin : Term.Twin same t t') (paired : Paired same P P')
    (assigned : Assigned same A A') (k : Nat) : Option.Rel (Assigned same)
      ((Pattern.bound k).matchIn P t A) ((Pattern.bound k).matchIn P' t' A') := by
  by_cases bound : t.kind = .boundVar
  · rw [matchIn, matchIn]
    obtain ⟨m, number⟩ := Option.isSome_iff_exists.mp (twin.alike.left.numbered bound)
    obtain ⟨n, number'⟩ := Option.isSome_iff_exists.mp
      (twin.alike.right.numbered (twin.alike.kind ▸ bound))
    have own := twin.alike.number bound m n number number'
    rw [number, number']
    rcases relCases (findRelated paired k) with ⟨empty, empty'⟩ | ⟨p, q, found, found', pair⟩
    · rw [empty, empty']
      exact .none
    · have agree : p.2 = m ↔ q.2 = n := Relator.rel_eq one pair own
      rw [found, found']
      exact relGuard (by simp [← twin.alike.kind, agree]) assigned
  · rw [boundOther bound, boundOther (twin.alike.kind ▸ bound)]
    exact .none

theorem matchAllTwins {P P' : List (Nat × Nat)} {ps : List Pattern}
    (each : ∀ p ∈ ps, ∀ t t' A A', Term.Twin same t t' → Assigned same A A' →
      Option.Rel (Assigned same) (p.matchIn P t A) (p.matchIn P' t' A'))
    {ts ts' : List Term} (twins : List.Forall₂ (Term.Twin same) ts ts') {A A' : Assignment}
    (assigned : Assigned same A A') :
    Option.Rel (Assigned same) (matchAll P ps ts A) (matchAll P' ps ts' A') := by
  induction ps generalizing ts ts' A A' with
  | nil => exact .some assigned
  | cons p ps ih =>
    obtain ⟨head, tail⟩ := List.forall_mem_cons.mp each
    cases twins with
    | nil => exact .some assigned
    | cons twin twins =>
      exact relBind (head _ _ _ _ twin assigned) fun B B' next => ih tail twins next

theorem matchTwins (one : Relator.BiUnique same) {p : Pattern} (neutral : p.Neutral) :
    ∀ {t t' : Term} {P P' : List (Nat × Nat)} {A A' : Assignment}, Term.Twin same t t' →
      Paired same P P' → Assigned same A A' →
      Option.Rel (Assigned same) (p.matchIn P t A) (p.matchIn P' t' A') := by
  induction neutral with
  | @node kind name children named below ih =>
    intro t t' P P' A A' twin paired assigned
    rw [matchIn, matchIn, nodeAgrees twin named]
    split
    · refine relBind (pairVariablesPaired paired twin kind children) fun Q Q' inner => ?_
      exact matchAllTwins (fun p mem t t' A A' twin assigned => ih p mem twin inner assigned)
        twin.descend assigned
    · exact .none
  | hole number =>
    intro t t' P P' A A' twin paired assigned
    exact fillAssigned one assigned twin number
  | bound number =>
    intro t t' P P' A A' twin paired assigned
    exact boundTwins one twin paired assigned number
  | @exact e labelled closed =>
    intro t t' P P' A A' twin paired assigned
    have single : Relator.BiUnique (@Eq Nat) :=
      ⟨fun _ _ _ a b => a.trans b.symm,fun _ _ _ a b => a.symm.trans b⟩
    have agree : e.alphaEq t = e.alphaEq t' :=
      Term.alphaEqTwins single one e (Term.twinSelf labelled) twin (by simp [closed])
    exact relGuard (by rw [agree]) assigned

/-- Whether a pattern matches does not depend on the choice of bound variables. -/
theorem matchesAlike {p : Pattern} (neutral : p.Neutral) {a b : Term} (left : a.Proper)
    (right : b.Proper) (equal : a.alphaEq b = true) : (p.match? a).isSome = (p.match? b).isSome := by
  obtain ⟨one, twin⟩ := Term.properTwins left right equal
  rcases relCases (matchTwins one neutral twin .nil .nil) with
    ⟨failed, failed'⟩ | ⟨A, A', found, found', _⟩
  · rw [match?, match?, failed, failed']
  · rw [match?, match?, found, found']
    rfl

def reboundPattern : Pattern :=
  .node .universal none [.hole 0 none,.bound 4,.node .existential none [.hole 0 none,.hole 1 none,
    .node .and none [.node .equals none [.bound 4,.hole 1 none],
      .node .universal none [.node .constant (some "S") [],.bound 4,
        .node .equals none [.bound 4,.hole 1 none]]]]]

def nestedQuantifiers (x y z : Nat) : Term :=
  let S := Term.typedConstant "S" Term.sort
  .bind .universal (.boundVar "x" x S) (.bind .existential (.boundVar "y" y S)
    (.binary .and (.binary .equals (.boundVar "x" x S) (.boundVar "y" y S))
      (.bind .universal (.boundVar "z" z S) (.binary .equals (.boundVar "z" z S) (.boundVar "y" y S)))))

theorem reboundNeutral : reboundPattern.Neutral := by
  simp [reboundPattern, neutralNode, Neutral.hole, Neutral.bound]

theorem matchesAlikeRebound :
    (nestedQuantifiers 0 1 2).Proper ∧ (nestedQuantifiers 7 4 0).Proper ∧
      (nestedQuantifiers 0 1 2).alphaEq (nestedQuantifiers 7 4 0) = true ∧
      (reboundPattern.match? (nestedQuantifiers 0 1 2)).isSome = true ∧
      (reboundPattern.match? (nestedQuantifiers 7 4 0)).isSome = true := by
  have left : (nestedQuantifiers 0 1 2).Proper := ⟨by decide,by decide,by decide⟩
  have right : (nestedQuantifiers 7 4 0).Proper := ⟨by decide,by decide,by decide⟩
  have equal : (nestedQuantifiers 0 1 2).alphaEq (nestedQuantifiers 7 4 0) = true := by decide
  have found : (reboundPattern.match? (nestedQuantifiers 0 1 2)).isSome = true := by decide
  exact ⟨left,right,equal,found,matchesAlike reboundNeutral left right equal ▸ found⟩

end Pattern

end ProofTutor
