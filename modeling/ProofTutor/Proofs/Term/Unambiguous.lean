import ProofTutor.Proofs.Term.Formula
import ProofTutor.Term.Display

/-!
Rendered formulas are read in one way. The texts of the signs and the parentheses begin with no letter
or digit and none begins with another, so a text is spelled by one row of items, and a row is laid out
by one formula up to reassociation.
-/
namespace ProofTutor

/-! ### Signs -/

def Piece.fixed? (format : Format) : Piece → Option String
  | .glyph text => some text
  | .symbol s => some (s.text format)
  | _ => none

def Kind.mark (format : Format) (sign : Kind) : List Char :=
  (((sign.shape format).findSome? (·.fixed? format)).getD "").toList

def Format.symbolic : List Format := [.utf8,.source]

inductive Opening where
  | ending | letter | sign | group
  deriving DecidableEq, Repr

def Opening.of : List Char → Opening
  | [] => .ending
  | c :: _ =>
    if c = ')' then .ending else if c = '(' then .group
    else if Text.isAlphanumeric c then .letter else .sign

theorem markOpening : ∀ format ∈ Format.symbolic, ∀ sign ∈ Kind.operators,
    sign.mark format ≠ [] ∧ Opening.of (sign.mark format) = .sign := by
  decide +kernel

theorem markApart : ∀ format ∈ Format.symbolic, ∀ sign ∈ Kind.operators, ∀ sign' ∈ Kind.operators,
    sign.mark format <+: sign'.mark format → sign = sign' := by
  decide +kernel

/-! ### Rows -/

namespace Item

mutual

def spell (format : Format) : Item → List Char
  | .atom text => text.toList
  | .sign kind => kind.mark format
  | .group items => '(' :: spellAll format items ++ [')']

def spellAll (format : Format) : List Item → List Char
  | [] => []
  | item :: items => spell format item ++ spellAll format items

end

def opening : List Item → Opening
  | [] => .ending
  | .atom _ :: _ => .letter
  | .sign _ :: _ => .sign
  | .group _ :: _ => .group

inductive Readable : List Item → Prop where
  | nil : Readable []
  | atom {text : String} {items : List Item} (lettered : Formula.Lettered text)
      (apart : opening items ≠ .letter) (rest : Readable items) : Readable (.atom text :: items)
  | sign {kind : Kind} {items : List Item} (operates : kind ∈ Kind.operators) (rest : Readable items) :
      Readable (.sign kind :: items)
  | group {inner items : List Item} (inside : Readable inner) (rest : Readable items) :
      Readable (.group inner :: items)

theorem letterOpening {c : Char} (letter : Text.isAlphanumeric c = true) (cs : List Char) :
    Opening.of (c :: cs) = .letter := by
  have close : Text.isAlphanumeric ')' = false := by decide +kernel
  have start : Text.isAlphanumeric '(' = false := by decide +kernel
  rw [Opening.of, if_neg, if_neg, if_pos letter]
  · rintro rfl
    cases start.symm.trans letter
  · rintro rfl
    cases close.symm.trans letter

theorem openingAppend {cs : List Char} (nonempty : cs ≠ []) (more : List Char) :
    Opening.of (cs ++ more) = Opening.of cs := by
  cases cs with
  | nil => exact absurd rfl nonempty
  | cons c cs => rfl

theorem openingSpelled {format : Format} (symbolic : format ∈ Format.symbolic) {items : List Item}
    (readable : Readable items) {rest : List Char} (stops : Opening.of rest = .ending) :
    Opening.of (spellAll format items ++ rest) = opening items := by
  cases readable with
  | nil => exact stops
  | @atom text _ lettered =>
    obtain ⟨nonempty, letters⟩ := lettered
    rw [spellAll, spell]
    cases chars : text.toList with
    | nil => exact absurd chars nonempty
    | cons c cs => exact letterOpening (letters c (chars ▸ List.mem_cons_self)) _
  | @sign kind _ operates =>
    obtain ⟨nonempty, own⟩ := markOpening format symbolic kind operates
    rw [spellAll, spell, List.append_assoc, openingAppend nonempty, own]
    rfl
  | group => rfl

theorem lettersOnce {cs ds more more' : List Char}
    (letters : ∀ c ∈ cs, Text.isAlphanumeric c = true) (letters' : ∀ c ∈ ds, Text.isAlphanumeric c = true)
    (apart : Opening.of more ≠ .letter) (apart' : Opening.of more' ≠ .letter)
    (same : cs ++ more = ds ++ more') : cs = ds ∧ more = more' := by
  have run {cs more : List Char} (letters : ∀ c ∈ cs, Text.isAlphanumeric c = true)
      (apart : Opening.of more ≠ .letter) : (cs ++ more).takeWhile Text.isAlphanumeric = cs := by
    rw [List.takeWhile_append_of_pos letters]
    cases more with
    | nil => simp
    | cons c more =>
      have other : ¬ Text.isAlphanumeric c = true := fun letter => apart (letterOpening letter more)
      rw [List.takeWhile_cons_of_neg other, List.append_nil]
  have equal : cs = ds := by rw [← run letters apart, same, run letters' apart']
  subst equal
  exact ⟨rfl,List.append_cancel_left same⟩

theorem spelledOnce {format : Format} (symbolic : format ∈ Format.symbolic) {items : List Item}
    (readable : Readable items) : ∀ {items' : List Item} {rest rest' : List Char}, Readable items' →
      Opening.of rest = .ending → Opening.of rest' = .ending →
      spellAll format items ++ rest = spellAll format items' ++ rest' →
      items = items' ∧ rest = rest' := by
  induction readable with
  | nil =>
    intro items' rest rest' readable' stops stops' same
    have first := openingSpelled symbolic readable' stops'
    rw [← same, openingSpelled symbolic .nil stops] at first
    cases readable' with
    | nil => exact ⟨rfl,same⟩
    | _ => cases first
  | @atom text items lettered apart more ih =>
    intro items' rest rest' readable' stops stops' same
    have first := openingSpelled symbolic readable' stops'
    rw [← same, openingSpelled symbolic (.atom lettered apart more) stops] at first
    cases readable' with
    | @atom text' items' lettered' apart' more' =>
      rw [spellAll, spellAll, spell, spell, List.append_assoc, List.append_assoc] at same
      obtain ⟨equal, behind⟩ := lettersOnce lettered.2 lettered'.2
        (openingSpelled symbolic more stops ▸ apart) (openingSpelled symbolic more' stops' ▸ apart') same
      obtain ⟨rfl, ends⟩ := ih more' stops stops' behind
      rw [String.toList_inj.mp equal]
      exact ⟨rfl,ends⟩
    | _ => cases first
  | @sign kind items operates more ih =>
    intro items' rest rest' readable' stops stops' same
    have first := openingSpelled symbolic readable' stops'
    rw [← same, openingSpelled symbolic (.sign operates more) stops] at first
    cases readable' with
    | @sign kind' items' operates' more' =>
      rw [spellAll, spellAll, spell, spell, List.append_assoc, List.append_assoc] at same
      obtain rfl : kind = kind' := by
        rcases List.prefix_or_prefix_of_prefix (List.prefix_append _ _)
          (same ▸ List.prefix_append _ _) with before | after
        · exact (markApart format symbolic kind' operates' kind operates before).symm
        · exact markApart format symbolic kind operates kind' operates' after
      obtain ⟨rfl, ends⟩ := ih more' stops stops' (List.append_cancel_left same)
      exact ⟨rfl,ends⟩
    | _ => cases first
  | @group inner items inside more ihInside ih =>
    intro items' rest rest' readable' stops stops' same
    have first := openingSpelled symbolic readable' stops'
    rw [← same, openingSpelled symbolic (.group inside more) stops] at first
    cases readable' with
    | @group inner' items' inside' more' =>
      simp only [spellAll, spell, List.append_assoc, List.cons_append, List.nil_append,
        List.cons.injEq, true_and] at same
      obtain ⟨rfl, behind⟩ := ihInside inside' rfl rfl same
      obtain ⟨rfl, ends⟩ := ih more' stops stops' (List.cons.inj behind).2
      exact ⟨rfl,ends⟩
    | _ => cases first

theorem spellAppend (format : Format) (items items' : List Item) :
    spellAll format (items ++ items') = spellAll format items ++ spellAll format items' := by
  induction items with
  | nil => rfl
  | cons item items ih => rw [List.cons_append, spellAll, spellAll, ih, List.append_assoc]

theorem readableJoined {items items' : List Item} (readable : Readable items)
    (readable' : Readable items') {kind : Kind} (operates : kind ∈ Kind.operators) :
    Readable (items ++ .sign kind :: items') := by
  induction readable with
  | nil => exact .sign operates readable'
  | @atom text items lettered apart _ ih =>
    refine .atom lettered ?_ ih
    cases items with
    | nil => simp [opening]
    | cons item items => cases item <;> exact apart
  | sign own _ ih => exact .sign own ih
  | group inside _ _ ih => exact .group inside ih

end Item

theorem Formula.Proper.readable {f : Formula} (proper : f.Proper) : Item.Readable f.items := by
  have operand {f : Formula} (readable : Item.Readable f.items) (parent : Kind) (index : Nat) :
      Item.Readable (f.operand parent index) := by
    rw [Formula.operand, Formula.enclosed]
    split
    · exact .group readable .nil
    · exact readable
  induction proper with
  | atom lettered => exact .atom lettered (by simp [Item.opening]) .nil
  | @unary sign f leads _ ih => exact .sign (Formula.leadingOperates leads) (operand ih sign 0)
  | @binary sign f g joins _ _ left right =>
    exact Item.readableJoined (operand left sign 0) (operand right sign 1)
      (Formula.joiningOperates joins)

/-! ### Rendered terms -/

inductive Term.HasFormula : Term → Formula → Prop where
  | name {kind : Kind} {info : Info} {type? : Option Term}
      (named : kind = .constant ∨ kind = .localConstant) (lettered : Formula.Lettered (shownName info)) :
      HasFormula ⟨kind,info,[],type?⟩ (.atom (shownName info))
  | value {info : Info} {text : String} {type? : Option Term} (own : info.value = some text)
      (lettered : Formula.Lettered text) : HasFormula ⟨.number,info,[],type?⟩ (.atom text)
  | unary {sign : Kind} {info : Info} {t : Term} {type? : Option Term} {f : Formula}
      (leads : sign ∈ Kind.leading) (operand : HasFormula t f) :
      HasFormula ⟨sign,info,[t],type?⟩ (.unary sign f)
  | binary {sign : Kind} {info : Info} {t u : Term} {type? : Option Term} {f g : Formula}
      (joins : sign ∈ Kind.joining) (left : HasFormula t f) (right : HasFormula u g) :
      HasFormula ⟨sign,info,[t,u],type?⟩ (.binary sign f g)

namespace Term

theorem HasFormula.proper {t : Term} {f : Formula} (own : t.HasFormula f) : f.Proper := by
  induction own with
  | name _ lettered => exact .atom lettered
  | value _ lettered => exact .atom lettered
  | unary leads _ ih => exact .unary leads ih
  | binary joins _ _ left right => exact .binary joins left right

theorem HasFormula.parenthesized {t : Term} {f : Formula} (own : t.HasFormula f) {parent : Kind}
    (operates : parent ∈ Kind.operators) (index : Nat) (format : Format) :
    parent.parenthesizes t.kind index format = parent.parenthesizes f.kind index .utf8 := by
  rw [Formula.parenthesizesOperator operates, Formula.parenthesizesOperator operates]
  cases own with
  | name named => rcases named with rfl | rfl <;> rfl
  | value => rfl
  | unary => rfl
  | binary => rfl

theorem leadingShape {sign : Kind} (leads : sign ∈ Kind.leading) (format : Format) :
    ∃ piece text, sign.shape format = [piece,.child 0] ∧ piece.fixed? format = some text := by
  cases sign
  all_goals first
    | exact ⟨_,_,rfl,rfl⟩
    | exact absurd leads (by decide)

theorem joiningShape {sign : Kind} (joins : sign ∈ Kind.joining) (format : Format) :
    ∃ piece text, sign.shape format = [.child 0,piece,.child 1] ∧ piece.fixed? format = some text := by
  cases sign
  all_goals first
    | exact ⟨_,_,rfl,rfl⟩
    | exact absurd joins (by decide)

theorem emitSymbolic {format : Format} (symbolic : format ∈ Format.symbolic) (text : String) :
    format.emit text = text := by
  have other : format ≠ .html := by
    rintro rfl
    exact absurd symbolic (by decide)
  simp [Format.emit, other]

theorem operandSpelled {format : Format} (symbolic : format ∈ Format.symbolic) {t : Term} {f : Formula}
    (own : t.HasFormula f) (same : (t.render format none).toList = Item.spellAll format f.items)
    {parent : Kind} (operates : parent ∈ Kind.operators) (index : Nat) :
    (inParentheses format (parent.parenthesizes t.kind index format) (t.render format none)).toList =
      Item.spellAll format (f.operand parent index) := by
  rw [own.parenthesized operates, inParentheses, Formula.operand, Formula.enclosed]
  split
  · simp [emitSymbolic symbolic, same, Item.spellAll, Item.spell]
  · exact same

theorem renderSpelled {format : Format} (symbolic : format ∈ Format.symbolic) {t : Term} {f : Formula}
    (own : t.HasFormula f) : (t.render format none).toList = Item.spellAll format f.items := by
  have plain := emitSymbolic symbolic
  induction own with
  | name named =>
    rcases named with rfl | rfl <;>
      simp [render, Kind.shape, concat, plain, Formula.items, Item.spellAll, Item.spell]
  | value own => simp [render, Kind.shape, concat, plain, own, Formula.items, Item.spellAll, Item.spell]
  | @unary sign info t type? f leads operand ih =>
    have below := operandSpelled symbolic operand ih (Formula.leadingOperates leads) 0
    obtain ⟨piece, text, shape, fixed⟩ := leadingShape leads format
    have rendered : render format none ⟨sign,info,[t],type?⟩ =
        text ++ inParentheses format (sign.parenthesizes t.kind 0 format) (t.render format none) := by
      rw [render, shape]
      cases piece <;> cases fixed <;> simp [concat, renderChild, plain]
    have mark : sign.mark format = text.toList := by simp [Kind.mark, shape, fixed]
    rw [rendered, String.toList_append, below, ← mark]
    rfl
  | @binary sign info t u type? f g joins left right ihLeft ihRight =>
    have operates := Formula.joiningOperates joins
    have before := operandSpelled symbolic left ihLeft operates 0
    have after := operandSpelled symbolic right ihRight operates 1
    obtain ⟨piece, text, shape, fixed⟩ := joiningShape joins format
    have rendered : render format none ⟨sign,info,[t,u],type?⟩ =
        inParentheses format (sign.parenthesizes t.kind 0 format) (t.render format none) ++ (text ++
          inParentheses format (sign.parenthesizes u.kind 1 format) (u.render format none)) := by
      rw [render, shape]
      cases piece <;> cases fixed <;> simp [concat, renderChild, plain]
    have mark : sign.mark format = text.toList := by
      have child : Piece.fixed? format (.child 0) = none := rfl
      simp [Kind.mark, shape, fixed, child]
    rw [rendered, String.toList_append, String.toList_append, before, after, ← mark]
    exact (Item.spellAppend format (f.operand sign 0) (.sign sign :: g.operand sign 1)).symm

/-- Terms with formulas are rendered alike if and only if their formulas are the same up to
reassociation. -/
theorem renderedUnambiguous {format : Format} (symbolic : format ∈ Format.symbolic) {t u : Term}
    {f g : Formula} (first : t.HasFormula f) (second : u.HasFormula g) :
    t.render format none = u.render format none ↔ f.Reassociated g := by
  have spelled : t.render format none = u.render format none ↔
      Item.spellAll format f.items = Item.spellAll format g.items := by
    rw [← String.toList_inj, renderSpelled symbolic first, renderSpelled symbolic second]
  rw [spelled, ← Formula.rowReassociated first.proper second.proper]
  refine ⟨fun same => ?_,fun same => by rw [same]⟩
  have same : Item.spellAll format f.items ++ [] = Item.spellAll format g.items ++ [] := by rw [same]
  exact (Item.spelledOnce symbolic first.proper.readable second.proper.readable rfl rfl same).1

def groupedLeft : Term :=
  .binary .difference (.binary .sum (.binary .sum (.constant "a") (.constant "b")) (.constant "c"))
    (.unary .minus (.number "1" none))

def groupedRight : Term :=
  .binary .difference (.binary .sum (.constant "a")
      (.binary .sum (.localConstant "b" "0" .sort) (.number "c" none)))
    (.unary .minus (.constant "1"))

theorem groupedReassociated : ∃ f g : Formula, groupedLeft.HasFormula f ∧ groupedRight.HasFormula g ∧
    groupedLeft.render .source none = groupedRight.render .source none ∧ f ≠ g ∧ f.Reassociated g := by
  have letter {c : Char} (within : 0x61 ≤ c.toNat ∧ c.toNat ≤ 0x7A) : Text.isAlphanumeric c = true := by
    have listed : Text.isAlphabetic c = true :=
      List.any_eq_true.mpr ⟨(0x61,0x7A),.tail _ (.head _),by simpa using within⟩
    rw [Text.isAlphanumeric, listed, Bool.true_or]
  have digit : Text.isAlphanumeric '1' = true := by
    have listed : Text.isNumeric '1' = true := List.any_eq_true.mpr ⟨(0x30,0x39),.head _,by decide⟩
    rw [Text.isAlphanumeric, listed, Bool.or_true]
  have a : Formula.Lettered "a" := by simpa [Formula.Lettered] using letter (by decide)
  have b : Formula.Lettered "b" := by simpa [Formula.Lettered] using letter (by decide)
  have c : Formula.Lettered "c" := by simpa [Formula.Lettered] using letter (by decide)
  have one : Formula.Lettered "1" := by simpa [Formula.Lettered] using digit
  have named {kind : Kind} (leaf : kind = .constant ∨ kind = .localConstant) {text : String}
      (lettered : Formula.Lettered text) (identifier : Option String) (type? : Option Term) :
      HasFormula ⟨kind,{ name := some text, identifier },[],type?⟩ (.atom text) := by
    have shown : shownName { name := some text, identifier } = text := by
      have nonempty : text ≠ "" := fun empty => lettered.1 (by simp [empty])
      simp [shownName, nonempty]
    have own : HasFormula ⟨kind,{ name := some text, identifier },[],type?⟩ _ :=
      .name leaf (shown.symm ▸ lettered)
    rwa [shown] at own
  have left : groupedLeft.HasFormula (.binary .difference
      (.binary .sum (.binary .sum (.atom "a") (.atom "b")) (.atom "c")) (.unary .minus (.atom "1"))) :=
    .binary (by decide) (.binary (by decide) (.binary (by decide) (named (.inl rfl) a none none)
      (named (.inl rfl) b none none)) (named (.inl rfl) c none none))
      (.unary (by decide) (.value rfl one))
  have right : groupedRight.HasFormula (.binary .difference
      (.binary .sum (.atom "a") (.binary .sum (.atom "b") (.atom "c"))) (.unary .minus (.atom "1"))) :=
    .binary (by decide) (.binary (by decide) (named (.inl rfl) a none none) (.binary (by decide)
      (named (.inr rfl) b (some "0") (some .sort)) (.value rfl c)))
      (.unary (by decide) (named (.inl rfl) one none none))
  have same : groupedLeft.render .source none = groupedRight.render .source none := by decide +kernel
  exact ⟨_,_,left,right,same,by decide,(renderedUnambiguous (by decide) left right).mp same⟩

end Term

end ProofTutor
