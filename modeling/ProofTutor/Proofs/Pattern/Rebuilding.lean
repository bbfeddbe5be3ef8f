import ProofTutor.Proofs.Term.Bare
import ProofTutor.Proofs.Term.FreeNumbers
import ProofTutor.Term.Pattern

/-!
A match can be replayed. What a matching run fills stays filled, every hole of the pattern is, and from
what the holes hold the pattern builds a term equal to the one that was matched.
-/
namespace ProofTutor

namespace Assignment

def Extends (a b : Assignment) : Prop :=
  ∀ k t, a.find? k = some t → b.find? k = some t

theorem Extends.trans {a b c : Assignment} (first : a.Extends b) (second : b.Extends c) : a.Extends c :=
  fun k t found => second k t (first k t found)

theorem Extends.filled {a b : Assignment} (keeps : a.Extends b) {k : Nat}
    (there : (a.find? k).isSome) : (b.find? k).isSome := by
  obtain ⟨t, found⟩ := Option.isSome_iff_exists.mp there
  rw [keeps k t found]
  rfl

theorem findCons (k n : Nat) (u : Term) (rest : Assignment) :
    find? ((n,u) :: rest) k = if n = k then some u else find? rest k := by
  rw [find?, List.find?_cons, find?]
  by_cases same : n = k
  · simp [same]
  · rw [if_neg same, beq_eq_false_iff_ne.mpr same]

theorem findInsert (a : Assignment) (k n : Nat) (t : Term) :
    (a.insert n t).find? k = if n = k then some t else a.find? k := by
  induction a with
  | nil => rw [insert, findCons]
  | cons entry rest ih =>
    obtain ⟨m, u⟩ := entry
    rw [insert]
    split
    · rw [findCons]
    · split
      · rename_i same
        rw [findCons, findCons, same]
        split <;> rfl
      · rename_i other
        rw [findCons, findCons, ih]
        by_cases here : m = k
        · rw [if_pos here, if_pos here, if_neg (here ▸ other)]
        · rw [if_neg here, if_neg here]

end Assignment

namespace Pattern

@[elab_as_elim]
theorem partInduction {motive : Pattern → Prop}
    (node : ∀ kind name children, (∀ p ∈ children, motive p) → motive (.node kind name children))
    (hole : ∀ number, motive (.hole number none))
    (typedHole : ∀ number type, motive type → motive (.hole number (some type)))
    (bound : ∀ number, motive (.bound number)) (exact : ∀ t, motive (.exact t)) (p : Pattern) :
    motive p := by
  refine Pattern.rec (motive_1 := motive) (motive_2 := fun ps => ∀ p ∈ ps, motive p)
    (motive_3 := fun type? => ∀ type, type? = some type → motive type)
    node ?_ bound exact (by simp) ?_ (by simp) ?_ p
  · intro number type? below
    cases type? with
    | none => exact hole number
    | some type => exact typedHole number type (below type rfl)
  · intro p ps head tail
    exact List.forall_mem_cons.mpr ⟨head,tail⟩
  · intro type below other same
    exact Option.some.inj same ▸ below

mutual

def holes : Pattern → List Nat
  | .node _ _ children => holesOf children
  | .hole number none => [number]
  | .hole number (some type) => number :: holes type
  | .bound _ => []
  | .exact _ => []

def holesOf : List Pattern → List Nat
  | [] => []
  | p :: ps => holes p ++ holesOf ps

end

theorem holesOfFlat (ps : List Pattern) : holesOf ps = ps.flatMap holes := by
  induction ps with
  | nil => rfl
  | cons p ps ih => rw [holesOf, ih, List.flatMap_cons]

/-! ### What a run keeps -/

theorem fillSome {k : Nat} {t : Term} {a b : Assignment} (filled : fill k t a = some b) :
    a.Extends b ∧ ∃ s, b.find? k = some s ∧ s.alphaEq t = true := by
  rw [fill] at filled
  split at filled
  · rename_i s found
    split at filled
    · rename_i equal
      cases Option.some.inj filled
      exact ⟨fun _ _ => id,s,found,equal⟩
    · cases filled
  · rename_i empty
    cases Option.some.inj filled
    refine ⟨fun n u found => ?_,t,by rw [Assignment.findInsert, if_pos rfl],?_⟩
    · have other : k ≠ n := by
        rintro rfl
        cases empty.symm.trans found
      rw [Assignment.findInsert, if_neg other, found]
    · exact Term.alphaEqSelf t [] (by simp)

theorem nodeSome {P : List (Nat × Nat)} {kind : Kind} {name : Option String} {children : List Pattern}
    {t : Term} {a b : Assignment} (matched : (Pattern.node kind name children).matchIn P t a = some b) :
    t.kind = kind ∧ t.children.length = children.length ∧ (name.isSome → t.name? = name) ∧
      ∃ inner, pairVariables kind children t P = some inner ∧
        matchAll inner children t.children a = some b := by
  rw [matchIn] at matched
  split at matched
  · rename_i fits
    simp only [Bool.and_eq_true_iff, beq_iff_eq, Bool.or_eq_true_iff] at fits
    obtain ⟨⟨own, length⟩, named⟩ := fits
    refine ⟨own,length,fun given => ?_,Option.bind_eq_some_iff.mp matched⟩
    exact named.resolve_left (by simpa [Option.isSome_iff_ne_none] using given)
  · cases matched

theorem boundSome {P : List (Nat × Nat)} {k : Nat} {t : Term} {a b : Assignment}
    (matched : (Pattern.bound k).matchIn P t a = some b) : b = a ∧ t.kind = .boundVar ∧
      ∃ n, t.number? = some n ∧ P.find? (·.1 == k) = some (k,n) := by
  rw [matchIn] at matched
  split at matched
  · rename_i n pair number found
    split at matched
    · rename_i fits
      obtain ⟨bound, partner⟩ := Bool.and_eq_true_iff.mp fits
      have own : pair.1 = k := by simpa using List.find?_some found
      exact ⟨(Option.some.inj matched).symm,eq_of_beq bound,n,number,
        by rw [found, ← own, ← eq_of_beq partner]⟩
    · cases matched
  · cases matched

theorem exactSome {P : List (Nat × Nat)} {e t : Term} {a b : Assignment}
    (matched : (Pattern.exact e).matchIn P t a = some b) : b = a ∧ e.alphaEq t = true := by
  rw [matchIn] at matched
  split at matched
  · rename_i equal
    exact ⟨(Option.some.inj matched).symm,equal⟩
  · cases matched

def Fills (p : Pattern) (a b : Assignment) : Prop :=
  a.Extends b ∧ ∀ k ∈ p.holes, (b.find? k).isSome

theorem matchAllFills {P : List (Nat × Nat)} {ps : List Pattern}
    (each : ∀ p ∈ ps, ∀ t a b, p.matchIn P t a = some b → p.Fills a b) {ts : List Term}
    (length : ts.length = ps.length) {a b : Assignment} (matched : matchAll P ps ts a = some b) :
    a.Extends b ∧ ∀ k ∈ holesOf ps, (b.find? k).isSome := by
  induction ps generalizing ts a with
  | nil =>
    cases Option.some.inj matched
    exact ⟨fun _ _ => id,by simp [holesOf]⟩
  | cons p ps ih =>
    cases ts with
    | nil => cases length
    | cons t ts =>
      obtain ⟨head, tail⟩ := List.forall_mem_cons.mp each
      obtain ⟨c, first, others⟩ := Option.bind_eq_some_iff.mp matched
      obtain ⟨keeps, filled⟩ := head t a c first
      obtain ⟨keeps', filled'⟩ := ih tail (Nat.succ.inj length) others
      refine ⟨keeps.trans keeps',fun k mem => ?_⟩
      rcases List.mem_append.mp mem with own | later
      · exact keeps'.filled (filled k own)
      · exact filled' k later

theorem matchFills (p : Pattern) : ∀ (P : List (Nat × Nat)) (t : Term) (a b : Assignment),
    p.matchIn P t a = some b → p.Fills a b := by
  induction p using partInduction with
  | node kind name children ih =>
    intro P t a b matched
    obtain ⟨_, length, _, inner, _, all⟩ := nodeSome matched
    exact matchAllFills (fun p mem => ih p mem inner) length all
  | hole number =>
    intro P t a b matched
    obtain ⟨keeps, s, found, _⟩ := fillSome matched
    exact ⟨keeps,by simp [holes, found]⟩
  | typedHole number type ih =>
    intro P t a b matched
    obtain ⟨c, typed, filled⟩ := Option.bind_eq_some_iff.mp matched
    obtain ⟨keeps, below⟩ := ih P t.type a c typed
    obtain ⟨keeps', s, found, _⟩ := fillSome filled
    have own : (b.find? number).isSome := by rw [found]; rfl
    exact ⟨keeps.trans keeps',List.forall_mem_cons.mpr ⟨own,fun k mem => keeps'.filled (below k mem)⟩⟩
  | bound number =>
    intro P t a b matched
    obtain ⟨rfl, _⟩ := boundSome matched
    exact ⟨fun _ _ => id,by simp [holes]⟩
  | exact e =>
    intro P t a b matched
    obtain ⟨rfl, _⟩ := exactSome matched
    exact ⟨fun _ _ => id,by simp [holes]⟩

def Within (P : List (Nat × Nat)) (b : Assignment) (p : Pattern) (t : Term) : Prop :=
  ∃ a' b', p.matchIn P t a' = some b' ∧ b'.Extends b

theorem Within.later {P : List (Nat × Nat)} {b c : Assignment} {p : Pattern} {t : Term}
    (part : Within P b p t) (keeps : b.Extends c) : Within P c p t :=
  let ⟨a', b', matched, keeps'⟩ := part
  ⟨a',b',matched,keeps'.trans keeps⟩

theorem matchAllEach {P : List (Nat × Nat)} {ps : List Pattern} {ts : List Term}
    (length : ts.length = ps.length) {a b : Assignment} (matched : matchAll P ps ts a = some b) :
    List.Forall₂ (Within P b) ps ts := by
  induction ps generalizing ts a with
  | nil =>
    rw [List.eq_nil_of_length_eq_zero length]
    exact .nil
  | cons p ps ih =>
    cases ts with
    | nil => cases length
    | cons t ts =>
      obtain ⟨c, first, others⟩ := Option.bind_eq_some_iff.mp matched
      have keeps := (matchAllFills (fun p _ => matchFills p P) (Nat.succ.inj length) others).1
      exact .cons ⟨a,c,first,keeps⟩ (ih (Nat.succ.inj length) others)

structure BinderMatch (P : List (Nat × Nat)) (b : Assignment) (type : Pattern) (v : Nat) (body : Pattern)
    (t x y z : Term) (n : Nat) : Prop where
  children : t.children = [x,y,z]
  number : t.boundNumber? = some n
  binds : t.binds? = some n
  kind : y.kind = .boundVar
  own : y.number? = some n
  typed : Within ((v,n) :: P) b type x
  inside : Within ((v,n) :: P) b body z

theorem binderSome {P : List (Nat × Nat)} {kind : Kind} (binds : kind.isBinder = true)
    {name : Option String} {type body : Pattern} {v : Nat} {t : Term} {a b : Assignment}
    (matched : (Pattern.node kind name [type,.bound v,body]).matchIn P t a = some b) :
    t.kind = kind ∧ ∃ x y z n, BinderMatch P b type v body t x y z n := by
  obtain ⟨same, length, _, inner, paired, all⟩ := nodeSome matched
  obtain ⟨x, y, z, children⟩ := List.length_eq_three.mp length
  have binder : t.kind.isBinder = true := same ▸ binds
  have second : t.children[1]? = some y := by rw [children]; rfl
  obtain ⟨number, bind⟩ := Term.bindsOf binder second
  have found : t.boundVar? = some y := by rw [Term.boundVar?, if_pos binder, second]
  obtain ⟨n, own, rfl⟩ : ∃ n, y.number? = some n ∧ (v,n) :: P = inner := by
    simpa [pairVariables, found, binds] using paired
  have parts := matchAllEach length all
  rw [children] at parts
  obtain _ | ⟨typed, _ | ⟨⟨_, _, matched', _⟩, _ | ⟨inside, _⟩⟩⟩ := parts
  have bound := (boundSome matched').2.1
  exact ⟨same,x,y,z,n,children,number.trans own,(bind bound).trans own,bound,own,typed,inside⟩

/-! ### What a pattern builds -/

/-- Patterns whose nodes are told by kind and name, with closed terms; `above` are the variables of the
enclosing binders, which may occur in the bodies. -/
inductive Rebuilds : List Nat → Pattern → Prop where
  | binder {above : List Nat} {kind : Kind} {name : Option String} {type body : Pattern} {v : Nat}
      (binds : kind.isBinder = true) (typed : Rebuilds above type) (inside : Rebuilds (v :: above) body) :
      Rebuilds above (.node kind name [type,.bound v,body])
  | node {above : List Nat} {kind : Kind} {name : Option String} {children : List Pattern}
      (free : kind.isBinder = false) (plain : kind ≠ .boundVar ∧ kind ≠ .number ∧ kind ≠ .metavar)
      (named : kind = .constant ∨ kind = .localConstant ∨ kind = .rawCode → name.isSome)
      (below : ∀ p ∈ children, Rebuilds above p) : Rebuilds above (.node kind name children)
  | hole {above : List Nat} (number : Nat) (type? : Option Pattern) :
      Rebuilds above (.hole number type?)
  | bound {above : List Nat} {v : Nat} (inside : v ∈ above) : Rebuilds above (.bound v)
  | exact {above : List Nat} {t : Term} (closed : t.freeNumbers = []) : Rebuilds above (.exact t)

theorem pairedOnce {P : List (Nat × Nat)} (distinct : (P.map Prod.snd).Nodup) {v n : Nat}
    (found : P.find? (·.1 == v) = some (v,n)) : Term.sameBound P v n = true := by
  induction P with
  | nil => cases found
  | cons pair P ih =>
    obtain ⟨other, distinct⟩ := List.nodup_cons.mp distinct
    rw [List.find?_cons] at found
    rw [Term.sameBoundPair]
    by_cases first : pair.1 = v
    · rw [beq_iff_eq.mpr first] at found
      cases Option.some.inj found
      simp
    · rw [beq_eq_false_iff_ne.mpr first] at found
      have inside : (v,n) ∈ P := List.mem_of_find?_eq_some found
      have later : pair.2 ≠ n := fun same => other (same ▸ List.mem_map_of_mem inside)
      rw [if_neg (by simp [first, later]), ih distinct found]

theorem pairVariablesPlain {kind : Kind} {t : Term} (free : t.kind.isBinder = false)
    (children : List Pattern) (P : List (Nat × Nat)) : pairVariables kind children t P = some P := by
  rw [pairVariables, Term.boundVar?, free]
  split
  · rename_i _ bound
    cases bound
  · rfl

theorem extendScopeElse {kind : Kind} {index : Nat} (other : kind.isBinder = false ∨ index ≠ 1)
    (first? : Option Term) (p : Pattern) (scope : List (Nat × Term)) :
    extendScope kind index first? p scope = scope := by
  unfold extendScope
  split
  · exact if_neg (by simpa [or_iff_not_imp_left] using other)
  · rfl

def Yields (P : List (Nat × Nat)) (c : Assignment) (scope : List (Nat × Term)) (p : Pattern)
    (t : Term) : Prop :=
  ∃ u, p.buildIn c scope = some u ∧ Term.alphaEqIn P u t = true

def builtVariable (v : Nat) (type : Term) : Term :=
  { kind := .boundVar, info := { number := some v }, type? := some type }

theorem variableBuilt {P : List (Nat × Nat)} (distinct : (P.map Prod.snd).Nodup) {v n : Nat}
    (found : P.find? (·.1 == v) = some (v,n)) {t : Term} (leaves : t.LeafVariables)
    (bound : t.kind = .boundVar) (number : t.number? = some n) (type : Term) :
    Term.alphaEqIn P (builtVariable v type) t = true := by
  have label : Term.sameLabel P (builtVariable v type) t = true := by
    rw [Term.sameLabel, number]
    exact pairedOnce distinct found
  rw [Term.alphaEqNode, label, bound, (leaves.own bound).2]
  rfl

theorem labelBuilt {kind : Kind} {name : Option String} {t : Term} (own : t.kind = kind)
    (plain : kind ≠ .boundVar ∧ kind ≠ .number ∧ kind ≠ .metavar)
    (named : kind = .constant ∨ kind = .localConstant ∨ kind = .rawCode → t.name? = name)
    (P : List (Nat × Nat)) (children : List Term) (type? : Option Term) :
    Term.sameLabel P { kind, info := { name }, children, type? } t = true := by
  cases kind <;> simp_all [Term.sameLabel, Term.name?, Term.identifier?]

theorem buildAllPlain {c : Assignment} {kind : Kind} (free : kind.isBinder = false)
    {scope : List (Nat × Term)} {P : List (Nat × Nat)} {ps : List Pattern} {ts : List Term}
    (each : List.Forall₂ (Yields P c scope) ps ts) (index : Nat) (first? : Option Term) :
    ∃ us, buildAll c kind index first? scope ps = some us ∧ Term.alphaEqAll P us ts = true := by
  induction each generalizing index first? with
  | nil => exact ⟨[],rfl,rfl⟩
  | cons first others ih =>
    obtain ⟨u, built, equal⟩ := first
    obtain ⟨us, builtAll, equalAll⟩ := ih (index + 1) (first?.or (some u))
    refine ⟨u :: us,?_,by rw [Term.alphaEqAll, equal, equalAll]; rfl⟩
    rw [buildAll, extendScopeElse (.inl free), built]
    dsimp only [Option.bind_eq_bind, Option.bind_some]
    rw [builtAll]
    rfl

theorem nodeYields {kind : Kind} (free : kind.isBinder = false)
    (plain : kind ≠ .boundVar ∧ kind ≠ .number ∧ kind ≠ .metavar) {name : Option String} {t : Term}
    (own : t.kind = kind)
    (named : kind = .constant ∨ kind = .localConstant ∨ kind = .rawCode → t.name? = name)
    {P : List (Nat × Nat)} {c : Assignment} {scope : List (Nat × Term)} {children : List Pattern}
    (each : List.Forall₂ (Yields P c scope) children t.children) :
    Yields P c scope (.node kind name children) t := by
  obtain ⟨us, built, equal⟩ := buildAllPlain free each 0 none
  have unbound : Term.pairBinders ⟨kind,{ name },us,Term.fixedType? kind⟩ t P = P := by
    rw [Term.pairBinders, Term.boundNumber?, Term.boundVar?, free]
    rfl
  refine ⟨_,by rw [buildIn, built]; rfl,?_⟩
  rw [Term.alphaEqNode, labelBuilt own plain named, own, unbound, equal, beq_self_eq_true]
  rfl

theorem buildBinder {c : Assignment} {kind : Kind} (binds : kind.isBinder = true) {v : Nat}
    {type body : Pattern} {scope : List (Nat × Term)} {first last : Term}
    (built : type.buildIn c scope = some first) (built' : body.buildIn c ((v,first) :: scope) = some last)
    (name : Option String) : (Pattern.node kind name [type,.bound v,body]).buildIn c scope =
      some ⟨kind,{ name },[first,builtVariable v first,last],Term.fixedType? kind⟩ := by
  have own : extendScope kind 1 (some first) (.bound v) scope = (v,first) :: scope := by
    simp [extendScope, binds]
  simp only [buildIn, buildAll, own, extendScopeElse (.inr Nat.zero_ne_one),
    extendScopeElse (.inr (Nat.succ_ne_self 1)), built, built', builtVariable, Option.none_or,
    Option.some_or, Option.bind_eq_bind, Option.bind_some, Option.map_some, Option.pure_def,
    List.find?_cons_of_pos, beq_self_eq_true, Nat.zero_add]

theorem binderYields {kind : Kind} (binds : kind.isBinder = true) (name : Option String) {t x y z : Term}
    (own : t.kind = kind) (children : t.children = [x,y,z]) {n : Nat} (number : t.boundNumber? = some n)
    {P : List (Nat × Nat)} {c : Assignment} {scope : List (Nat × Term)} {type body : Pattern} {v : Nat}
    (second : ∀ u, Term.alphaEqIn ((v,n) :: P) (builtVariable v u) y = true)
    (typed : Yields ((v,n) :: P) c scope type x)
    (inside : ∀ u, Yields ((v,n) :: P) c ((v,u) :: scope) body z) :
    Yields P c scope (.node kind name [type,.bound v,body]) t := by
  obtain ⟨first, built, equal⟩ := typed
  obtain ⟨last, built', equal'⟩ := inside first
  refine ⟨_,buildBinder binds built built' name,?_⟩
  have paired : Term.pairBinders ⟨kind,{ name },[first,builtVariable v first,last],
      Term.fixedType? kind⟩ t P = (v,n) :: P := by
    rw [Term.pairBinders, number, (Term.bindsOf binds rfl).1]
    rfl
  have plain : kind ≠ .boundVar ∧ kind ≠ .number ∧ kind ≠ .metavar := by
    refine ⟨?_,?_,?_⟩ <;> (rintro rfl; cases binds)
  have unnamed : ¬(kind = .constant ∨ kind = .localConstant ∨ kind = .rawCode) := by
    rintro (rfl | rfl | rfl) <;> cases binds
  rw [Term.alphaEqNode, labelBuilt own plain (fun named => absurd named unnamed), own, paired, children,
    Term.alphaEqAll, equal, Term.alphaEqAll, second, Term.alphaEqAll, equal', beq_self_eq_true]
  rfl

structure Replay (c : Assignment) (above : List Nat) (scope : List (Nat × Term)) (P : List (Nat × Nat))
    (p : Pattern) (t : Term) : Prop where
  part : Within P c p t
  closed : ∀ k ∈ p.holes, ∀ s ∈ c.find? k, s.freeNumbers = []
  known : ∀ v ∈ above, v ∈ scope.map Prod.fst
  leaves : t.LeafVariables
  distinct : (P.map Prod.snd ++ t.boundNumbers).Nodup

theorem holeYields {c : Assignment} {above : List Nat} {scope : List (Nat × Term)}
    {P : List (Nat × Nat)} {number : Nat} {type? : Option Pattern} {t : Term}
    (replay : Replay c above scope P (.hole number type?) t) :
    Yields P c scope (.hole number type?) t := by
  obtain ⟨a, b, matched, keeps⟩ := replay.part
  obtain ⟨s, found, equal⟩ : ∃ s, b.find? number = some s ∧ s.alphaEq t = true := by
    cases type? with
    | none => exact (fillSome matched).2
    | some type =>
      obtain ⟨_, _, filled⟩ := Option.bind_eq_some_iff.mp matched
      exact (fillSome filled).2
  have own : number ∈ (Pattern.hole number type?).holes := by cases type? <;> simp [holes]
  -- the two were compared without the pairs around
  have kept := keeps number s found
  exact ⟨s,kept,Term.closedAnywhere (replay.closed number own s kept) replay.leaves equal P⟩

theorem boundYields {c : Assignment} {above : List Nat} {scope : List (Nat × Term)}
    {P : List (Nat × Nat)} {v : Nat} (inside : v ∈ above) {t : Term}
    (replay : Replay c above scope P (.bound v) t) : Yields P c scope (.bound v) t := by
  obtain ⟨a, b, matched, keeps⟩ := replay.part
  obtain ⟨_, bound, n, number, found⟩ := boundSome matched
  obtain ⟨⟨k, type⟩, entry⟩ : ∃ e, scope.find? (·.1 == v) = some e := by
    obtain ⟨e, mem, own⟩ := List.mem_map.mp (replay.known v inside)
    exact Option.isSome_iff_exists.mp (List.find?_isSome.mpr ⟨e,mem,beq_iff_eq.mpr own⟩)
  have partners : (P.map Prod.snd).Nodup := replay.distinct.sublist (List.sublist_append_left _ _)
  refine ⟨builtVariable v type,by rw [buildIn, entry]; rfl,?_⟩
  exact variableBuilt partners found replay.leaves bound number type

theorem rebuilt {above : List Nat} {p : Pattern} (shape : Rebuilds above p) {c : Assignment} :
    ∀ {P : List (Nat × Nat)} {scope : List (Nat × Term)} {t : Term},
      Replay c above scope P p t → Yields P c scope p t := by
  induction shape with
  | @binder above kind name type body v binds typed inside ihType ihBody =>
    intro P scope t replay
    obtain ⟨a, b, matched, keeps⟩ := replay.part
    obtain ⟨own, x, y, z, n, run⟩ := binderSome binds matched
    have memX : x ∈ t.children := by simp [run.children]
    have memY : y ∈ t.children := by simp [run.children]
    have memZ : z ∈ t.children := by simp [run.children]
    have under {u : Term} (mem : u ∈ t.children) := Term.distinctUnder mem run.binds replay.distinct
    have below : ∀ k, k ∈ type.holes ∨ k ∈ body.holes →
        k ∈ (Pattern.node kind name [type,.bound v,body]).holes := by
      simp [holes, holesOf]
    refine binderYields binds name own run.children run.number (fun u => ?_) (ihType ?_)
      fun u => ihBody ?_
    · have paired : ((v,n) :: P).find? (·.1 == v) = some (v,n) := by simp
      have partners : (((v,n) :: P).map Prod.snd).Nodup :=
        (under memY).sublist (List.sublist_append_left _ _)
      exact variableBuilt partners paired (replay.leaves.child memY) run.kind run.own u
    · exact ⟨run.typed.later keeps,fun k hole => replay.closed k (below k (.inl hole)),replay.known,
        replay.leaves.child memX,under memX⟩
    · refine ⟨run.inside.later keeps,fun k hole => replay.closed k (below k (.inr hole)),
        fun w mem => ?_,replay.leaves.child memZ,under memZ⟩
      rw [List.map_cons, List.mem_cons]
      exact (List.mem_cons.mp mem).imp_right (replay.known w)
  | @node above kind name children free plain named below ih =>
    intro P scope t replay
    obtain ⟨a, b, matched, keeps⟩ := replay.part
    obtain ⟨own, length, agree, inner, paired, all⟩ := nodeSome matched
    have plainly : t.kind.isBinder = false := own ▸ free
    cases (pairVariablesPlain plainly children P).symm.trans paired
    refine nodeYields free plain own (fun constant => agree (named constant)) ?_
    refine Term.relatedImp (fun p mem u mem' part => ?_) (matchAllEach length all)
    refine ih p mem ⟨part.later keeps,fun k hole => replay.closed k ?_,replay.known,
      replay.leaves.child mem',Term.distinctBelow mem' replay.distinct⟩
    rw [holes, holesOfFlat]
    exact List.mem_flatMap.mpr ⟨p,mem,hole⟩
  | hole number type? =>
    intro P scope t replay
    exact holeYields replay
  | bound inside =>
    intro P scope t replay
    exact boundYields inside replay
  | exact ended =>
    intro P scope t replay
    obtain ⟨a, b, matched, keeps⟩ := replay.part
    exact ⟨_,rfl,Term.closedAnywhere ended replay.leaves (exactSome matched).2 P⟩

/-- A match can be replayed: it keeps and fills, and the pattern builds the term again from what is
filled; a failed attempt changes nothing. -/
theorem matchRebuilds {p : Pattern} (shape : Rebuilds [] p) {t : Term} (once : t.boundNumbers.Nodup)
    (a : Assignment) :
    ((p.matchInto t a).1 = true → a.Extends (p.matchInto t a).2 ∧
      (∀ k ∈ p.holes, ((p.matchInto t a).2.find? k).isSome) ∧
      (t.LeafVariables →
        (∀ k ∈ p.holes, ∀ s ∈ (p.matchInto t a).2.find? k, s.freeNumbers = []) →
        ∃ u, p.build? (p.matchInto t a).2 = some u ∧ u.alphaEq t = true)) ∧
      ((p.matchInto t a).1 = false → (p.matchInto t a).2 = a) := by
  rw [matchInto]
  cases matched : p.matchInto? t a with
  | none => simp
  | some b =>
    obtain ⟨keeps, filled⟩ := matchFills p [] t a b matched
    refine ⟨fun _ => ⟨keeps,filled,fun leaves closed => ?_⟩,by simp⟩
    exact rebuilt shape ⟨⟨a,b,matched,fun _ _ => id⟩,closed,by simp,leaves,once⟩

def typedTwice : Pattern :=
  .node .universal none [.hole 0 none,.bound 2,.node .existential none [.hole 0 none,.bound 1,
    .node .and none [.node .equals none [.bound 2,.bound 1],.hole 3 none]]]

def quantifiedPair (x y z : Nat) : Term :=
  let S := Term.constant "S"
  .bind .universal (.boundVar "x" x S) (.bind .existential (.boundVar "y" y S)
    (.binary .and (.binary .equals (.boundVar "x" x S) (.boundVar "y" y S))
      (.bind .universal (.boundVar "z" z S) (.binary .belongs (.boundVar "z" z S) S))))

theorem typedTwiceRebuilds : Rebuilds [] typedTwice := by
  refine .binder rfl (.hole _ _) (.binder rfl (.hole _ _) (.node rfl (by decide) (by decide) ?_))
  refine List.forall_mem_cons.mpr ⟨?_,List.forall_mem_cons.mpr ⟨.hole _ _,by simp⟩⟩
  refine .node rfl (by decide) (by decide) (List.forall_mem_cons.mpr ⟨.bound (by decide),?_⟩)
  exact List.forall_mem_cons.mpr ⟨.bound (by decide),by simp⟩

theorem matchRebuildsTwice :
    Rebuilds [] typedTwice ∧ (quantifiedPair 1 2 0).boundNumbers.Nodup ∧
      (quantifiedPair 1 2 0).LeafVariables ∧
      (typedTwice.matchInto (quantifiedPair 1 2 0) []).1 = true ∧
      ∃ u, typedTwice.build? (typedTwice.matchInto (quantifiedPair 1 2 0) []).2 = some u ∧
        u.alphaEq (quantifiedPair 1 2 0) = true := by
  have once : (quantifiedPair 1 2 0).boundNumbers.Nodup := by decide
  have leaves : (quantifiedPair 1 2 0).LeafVariables := by decide
  have matched : (typedTwice.matchInto (quantifiedPair 1 2 0) []).1 = true := by decide
  have run := (matchRebuilds typedTwiceRebuilds once []).1 matched
  exact ⟨typedTwiceRebuilds,once,leaves,matched,run.2.2 leaves (by decide)⟩

def Differs (p : Pattern) (t : Term) (a : Assignment) : Prop :=
  Rebuilds [] p ∧ t.boundNumbers.Nodup ∧ (p.matchInto t a).1 = true ∧
    (∀ k ∈ p.holes, ∀ s ∈ (p.matchInto t a).2.find? k, s.freeNumbers = []) ∧
    ∃ u, p.build? (p.matchInto t a).2 = some u ∧ u.alphaEq t = false

def childOfVariable : Term :=
  let S := Term.constant "S"
  .bind .universal (.boundVar "x" 3 S) { Term.boundVar "x" 3 S with children := [Term.leaf .truth] }

def numberless (number : Option Nat) : Term :=
  let own : Term := { kind := .boundVar, info := { name := some "x", number } }
  { kind := .existential, children := [Term.constant "S",own,Term.boundVar "x" 5 Term.sort] }

/-- Occurrences are matched without their children, and a variable without a number is compared by its
name where no pair is above it. -/
theorem rebuildsOther :
    Differs (.node .universal none [.hole 0 none,.bound 0,.bound 0]) childOfVariable [] ∧
      Differs (.node .universal none [.hole 1 none,.bound 5,.hole 0 none])
        (.bind .universal (.boundVar "y" 7 Term.sort) (numberless none)) [(0,numberless (some 5))] := by
  constructor
  · refine ⟨.binder rfl (.hole _ _) (.bound (by decide)),by decide,by decide,by decide,_,rfl,by decide⟩
  · refine ⟨.binder rfl (.hole _ _) (.hole _ _),by decide,by decide,by decide,_,rfl,by decide⟩

end Pattern

end ProofTutor
