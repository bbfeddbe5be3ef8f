import ProofTutor.Proofs.Pattern.Rebuilding

/-!
What a pattern builds, it matches. The variables that a built term has are numbered as those of the
pattern, so the match pairs each of them with itself, and it fills the holes with the terms that they were
built from.
-/
namespace ProofTutor

namespace Pattern

inductive Untyped : Pattern → Prop where
  | node {kind : Kind} {name : Option String} {children : List Pattern}
      (below : ∀ p ∈ children, Untyped p) : Untyped (.node kind name children)
  | hole (number : Nat) : Untyped (.hole number none)
  | bound (number : Nat) : Untyped (.bound number)
  | exact (t : Term) : Untyped (.exact t)

/-! ### Filled as before -/

structure Copies (a : Assignment) (done : List Nat) (c : Assignment) : Prop where
  filled : ∀ k ∈ done, ∃ t, a.find? k = some t ∧ c.find? k = some t
  others : ∀ k, k ∉ done → c.find? k = none

theorem copiesNothing (a : Assignment) : Copies a [] [] where
  filled := by simp
  others k _ := rfl

theorem Copies.reorder {a c : Assignment} {done done' : List Nat} (copies : Copies a done c)
    (same : ∀ k, k ∈ done' ↔ k ∈ done) : Copies a done' c where
  filled k mem := copies.filled k ((same k).mp mem)
  others k out := copies.others k (mt (same k).mpr out)

theorem fillCopies {a c : Assignment} {done : List Nat} (copies : Copies a done c) {k : Nat} {t : Term}
    (own : a.find? k = some t) : ∃ d, fill k t c = some d ∧ Copies a (k :: done) d := by
  by_cases before : k ∈ done
  · obtain ⟨s, found, kept⟩ := copies.filled k before
    obtain rfl : t = s := Option.some.inj (own.symm.trans found)
    refine ⟨c,by rw [fill, kept]; exact if_pos (Term.alphaEqSelf t [] (by simp)),?_⟩
    exact copies.reorder fun n => ⟨fun mem => (List.mem_cons.mp mem).elim (· ▸ before) id,
      List.mem_cons_of_mem k⟩
  · refine ⟨c.insert k t,by rw [fill, copies.others k before],?_,?_⟩
    · intro n mem
      by_cases here : k = n
      · exact ⟨t,here ▸ own,by rw [Assignment.findInsert, if_pos here]⟩
      · rw [Assignment.findInsert, if_neg here]
        exact copies.filled n ((List.mem_cons.mp mem).resolve_left (Ne.symm here))
    · intro n out
      rw [List.mem_cons, not_or] at out
      rw [Assignment.findInsert, if_neg (Ne.symm out.1)]
      exact copies.others n out.2

/-! ### Variables paired with themselves -/

def Diagonal (P : List (Nat × Nat)) (scope : List (Nat × Term)) : Prop :=
  ∀ v ∈ scope.map Prod.fst, P.find? (·.1 == v) = some (v,v)

theorem Diagonal.push {P : List (Nat × Nat)} {scope : List (Nat × Term)} (paired : Diagonal P scope)
    (v : Nat) : Diagonal ((v,v) :: P) scope := by
  intro w mem
  rw [List.find?_cons]
  by_cases same : v = w
  · rw [beq_iff_eq.mpr same, same]
  · rw [beq_eq_false_iff_ne.mpr same]
    exact paired w mem

theorem boundBuilt {a : Assignment} {scope : List (Nat × Term)} {v : Nat} {t : Term}
    (built : (Pattern.bound v).buildIn a scope = some t) :
    v ∈ scope.map Prod.fst ∧ ∃ type, t = builtVariable v type := by
  rw [buildIn] at built
  obtain ⟨⟨w, type⟩, found, rfl⟩ := Option.map_eq_some_iff.mp built
  have same : w = v := by simpa using List.find?_some found
  exact ⟨List.mem_map.mpr ⟨_,List.mem_of_find?_eq_some found,same⟩,type,rfl⟩

def Declares (kind : Kind) (children : List Pattern) (v : Nat) : Prop :=
  kind.isBinder = true ∧ children[1]? = some (.bound v)

theorem extendScopeOnly {kind : Kind} {index : Nat} {first? : Option Term} {p : Pattern}
    {scope : List (Nat × Term)} {v : Nat}
    (mem : v ∈ (extendScope kind index first? p scope).map Prod.fst) :
    v ∈ scope.map Prod.fst ∨ kind.isBinder = true ∧ index = 1 ∧ p = .bound v := by
  unfold extendScope at mem
  split at mem
  · rename_i number type
    split at mem
    · rename_i second
      obtain ⟨binds, here⟩ := Bool.and_eq_true_iff.mp second
      rcases List.mem_cons.mp mem with rfl | outer
      · exact .inr ⟨binds,eq_of_beq here,rfl⟩
      · exact .inl outer
    · exact .inl mem
  · exact .inl mem

theorem buildAllEach {a : Assignment} {kind : Kind} {declared : Nat → Prop} {ps : List Pattern}
    {index : Nat} {first? : Option Term} {scope : List (Nat × Term)} {ts : List Term}
    (own : ∀ i v, ps[i]? = some (.bound v) → index + i = 1 → kind.isBinder = true → declared v)
    (built : buildAll a kind index first? scope ps = some ts) :
    List.Forall₂ (fun p t => ∃ inner, buildIn a inner p = some t ∧
      ∀ v ∈ inner.map Prod.fst, v ∈ scope.map Prod.fst ∨ declared v) ps ts := by
  induction ps generalizing index first? scope ts with
  | nil =>
    cases Option.some.inj built
    exact .nil
  | cons p ps ih =>
    rw [buildAll] at built
    simp only [Option.bind_eq_bind, Option.pure_def, Option.bind_eq_some_iff] at built
    obtain ⟨t, first, ts', others, same⟩ := built
    cases Option.some.inj same
    have inside : ∀ v ∈ (extendScope kind index first? p scope).map Prod.fst,
        v ∈ scope.map Prod.fst ∨ declared v := by
      intro v mem
      rcases extendScopeOnly mem with outer | ⟨binds, here, same⟩
      · exact .inl outer
      · exact .inr (own 0 v (by rw [same]; rfl) here binds)
    refine .cons ⟨_,first,inside⟩ (Term.relatedImp (fun q _ u _ part => ?_) (ih ?_ others))
    · obtain ⟨inner, matched, known⟩ := part
      exact ⟨inner,matched,fun v mem => (known v mem).elim (inside v) .inr⟩
    · exact fun i v found sum => own (i + 1) v found (by omega)

theorem pairVariablesBuilt {kind : Kind} {children : List Pattern} {t : Term} (same : t.kind = kind)
    (second : ∀ v, children[1]? = some (.bound v) → ∃ type, t.children[1]? = some (builtVariable v type))
    {P : List (Nat × Nat)} {scope : List (Nat × Term)} (paired : Diagonal P scope) :
    ∃ inner, pairVariables kind children t P = some inner ∧ Diagonal inner scope ∧
      ∀ v, Declares kind children v → inner.find? (·.1 == v) = some (v,v) := by
  by_cases declares : ∃ v, Declares kind children v
  · obtain ⟨v, binds, found⟩ := declares
    obtain ⟨type, own⟩ := second v found
    refine ⟨(v,v) :: P,?_,paired.push v,?_⟩
    · rw [pairVariables, found, Term.boundVar?, same, if_pos binds, own]
      dsimp only
      rw [if_pos binds]
      rfl
    · rintro w ⟨_, found'⟩
      cases found.symm.trans found'
      exact List.find?_cons_of_pos (by simp)
  · refine ⟨P,?_,paired,fun v own => absurd ⟨v,own⟩ declares⟩
    rw [pairVariables]
    split
    · rename_i v _ found _
      exact if_neg fun binds => declares ⟨v,binds,found⟩
    · rfl

/-! ### Runs on built terms -/

def Refills (P : List (Nat × Nat)) (a : Assignment) (p : Pattern) (t : Term) : Prop :=
  ∀ done c, Copies a done c → ∃ d, p.matchIn P t c = some d ∧ Copies a (p.holes ++ done) d

theorem matchAllRefills {P : List (Nat × Nat)} {a : Assignment} {ps : List Pattern} {ts : List Term}
    (each : List.Forall₂ (Refills P a) ps ts) {done : List Nat} {c : Assignment}
    (copies : Copies a done c) :
    ∃ d, matchAll P ps ts c = some d ∧ Copies a (holesOf ps ++ done) d := by
  induction each generalizing done c with
  | nil => exact ⟨c,rfl,copies⟩
  | @cons p t ps ts first others ih =>
    obtain ⟨d, matched, copied⟩ := first done c copies
    obtain ⟨e, all, copied'⟩ := ih copied
    refine ⟨e,by rw [matchAll, matched, Option.bind_some, all],copied'.reorder fun k => ?_⟩
    simp only [holesOf, List.mem_append]
    tauto

theorem nodeMatches {kind : Kind} {name : Option String} {children : List Pattern} {t : Term}
    (same : t.kind = kind) (length : t.children.length = children.length) (named : t.name? = name)
    (P : List (Nat × Nat)) (c : Assignment) : (Pattern.node kind name children).matchIn P t c =
      (pairVariables kind children t P).bind fun inner => matchAll inner children t.children c := by
  rw [matchIn, if_pos (by simp [same, length, named])]

theorem builtRefills {p : Pattern} (untyped : p.Untyped) {a : Assignment} :
    ∀ {scope : List (Nat × Term)} {P : List (Nat × Nat)} {t : Term}, Diagonal P scope →
      p.buildIn a scope = some t → Refills P a p t := by
  induction untyped with
  | @node kind name children below ih =>
    intro scope P t paired built done c copies
    rw [buildIn] at built
    obtain ⟨ts, all, made⟩ := Option.map_eq_some_iff.mp built
    have same : t.kind = kind := by rw [← made]
    have parts : t.children = ts := by rw [← made]
    have named : t.name? = name := by rw [← made]; rfl
    have own (i v : Nat) (found : children[i]? = some (.bound v)) (sum : 0 + i = 1)
        (binds : kind.isBinder = true) : Declares kind children v :=
      ⟨binds,by rwa [show i = 1 by omega] at found⟩
    have each := buildAllEach own all
    have second : ∀ v, children[1]? = some (.bound v) →
        ∃ type, t.children[1]? = some (builtVariable v type) := by
      intro v found
      obtain ⟨u, own, inner, part, _⟩ := Term.partnerAt each found
      obtain ⟨_, type, rfl⟩ := boundBuilt part
      exact ⟨type,parts ▸ own⟩
    obtain ⟨inner, pairs, around, declared⟩ := pairVariablesBuilt same second paired
    have refills : List.Forall₂ (Refills inner a) children ts := by
      refine Term.relatedImp (fun p mem u _ built => ?_) each
      obtain ⟨under, part, known⟩ := built
      exact ih p mem (fun v inside => (known v inside).elim (around v) (declared v)) part
    obtain ⟨d, matched, copied⟩ := matchAllRefills refills copies
    refine ⟨d,?_,copied⟩
    rw [nodeMatches same (by rw [parts, each.length_eq]) named, pairs, Option.bind_some, parts, matched]
  | hole number =>
    intro scope P t paired built done c copies
    exact fillCopies copies built
  | bound v =>
    intro scope P t paired built done c copies
    obtain ⟨known, type, rfl⟩ := boundBuilt built
    refine ⟨c,?_,copies⟩
    have number : (builtVariable v type).number? = some v := rfl
    rw [matchIn, number, paired v known]
    exact if_pos (by simp [builtVariable])
  | exact e =>
    intro scope P t paired built done c copies
    cases Option.some.inj built
    exact ⟨c,by rw [matchIn]; exact if_pos (Term.alphaEqSelf e [] (by simp)),copies⟩

/-- What a pattern builds, it matches, and the match fills exactly its holes, with the same terms. -/
theorem builtMatches {p : Pattern} (untyped : p.Untyped) {a : Assignment} {t : Term}
    (built : p.build? a = some t) :
    ∃ b, p.match? t = some b ∧ (∀ k, (b.find? k).isSome ↔ k ∈ p.holes) ∧
      ∀ k ∈ p.holes, b.find? k = a.find? k := by
  obtain ⟨b, matched, copies⟩ := builtRefills untyped (by simp [Diagonal]) built [] [] (copiesNothing a)
  rw [List.append_nil] at copies
  refine ⟨b,matched,fun k => ⟨fun filled => ?_,fun mem => ?_⟩,fun k mem => ?_⟩
  · by_contra out
    rw [copies.others k out] at filled
    cases filled
  · obtain ⟨s, _, found⟩ := copies.filled k mem
    rw [found]
    rfl
  · obtain ⟨s, own, found⟩ := copies.filled k mem
    rw [own, found]

def reboundTwice : Pattern :=
  .node .universal none [.hole 0 none,.bound 4,
    .node .lambda none [.bound 4,.bound 4,.hole 1 none,.node .equals none [.bound 4,.hole 1 none]]]

def openFilling : Assignment :=
  [(0,Term.constant "S"),(1,.binary .sum (.boundVar "y" 4 .sort) (.boundVar "x" 2 .sort)),(7,.prop)]

theorem reboundUntyped : reboundTwice.Untyped := by
  refine .node (List.forall_mem_cons.mpr ⟨.hole 0,List.forall_mem_cons.mpr ⟨.bound 4,?_⟩⟩)
  refine List.forall_mem_singleton.mpr (.node (List.forall_mem_cons.mpr ⟨.bound 4,?_⟩))
  refine List.forall_mem_cons.mpr ⟨.bound 4,List.forall_mem_cons.mpr ⟨.hole 1,?_⟩⟩
  exact List.forall_mem_singleton.mpr (.node (by simp [Untyped.bound, Untyped.hole]))

theorem builtMatchesRebound : reboundTwice.Untyped ∧ ∃ t b, reboundTwice.build? openFilling = some t ∧
    reboundTwice.match? t = some b ∧ (∀ k, (b.find? k).isSome ↔ k ∈ reboundTwice.holes) ∧
      ∀ k ∈ reboundTwice.holes, b.find? k = openFilling.find? k := by
  obtain ⟨t, built⟩ : ∃ t, reboundTwice.build? openFilling = some t := ⟨_,rfl⟩
  obtain ⟨b, matched⟩ := builtMatches reboundUntyped built
  exact ⟨reboundUntyped,t,b,built,matched⟩

end Pattern

end ProofTutor
