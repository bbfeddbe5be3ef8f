import ProofTutor.Proofs.Term.Alpha
import ProofTutor.Term.Display

/-!
The HTML text of a term is its plain text with four characters replaced by entities. No branch of
the display asks for HTML but the one that escapes, and what is escaped piece by piece is escaped as
a whole.
-/
namespace ProofTutor

namespace Format

def entities : List (List Char) :=
  ["&amp;".toList,"&lt;".toList,"&gt;".toList,"&quot;".toList]

structure Escaped (text : List Char) : Prop where
  raw : ∀ c ∈ text, c ∉ ['<','>','"']
  entity : ∀ after, '&' :: after <:+ text → ∃ entity ∈ entities, entity <+: '&' :: after

def unescapeChars : List Char → List Char
  | '&' :: 'a' :: 'm' :: 'p' :: ';' :: cs => '&' :: unescapeChars cs
  | '&' :: 'l' :: 't' :: ';' :: cs => '<' :: unescapeChars cs
  | '&' :: 'g' :: 't' :: ';' :: cs => '>' :: unescapeChars cs
  | '&' :: 'q' :: 'u' :: 'o' :: 't' :: ';' :: cs => '"' :: unescapeChars cs
  | c :: cs => c :: unescapeChars cs
  | [] => []

def unescape (s : String) : String :=
  .ofList (unescapeChars s.toList)

/-! ### Escaped text -/

theorem escapeAppend (s s' : String) : escape (s ++ s') = escape s ++ escape s' := by
  simp [escape, String.ofList_append]

theorem escapedNil : Escaped [] where
  raw := by simp
  entity := by simp

theorem escapedPlain {c : Char} (plain : c ∉ ['&','<','>','"']) {text : List Char}
    (escaped : Escaped text) : Escaped (c :: text) where
  raw := List.forall_mem_cons.mpr ⟨fun mem => plain (List.mem_cons_of_mem _ mem),escaped.raw⟩
  entity after ends := by
    rcases List.suffix_cons_iff.mp ends with same | ends
    · cases same
      exact absurd List.mem_cons_self plain
    · exact escaped.entity after ends

theorem suffixBehind {c : Char} {cs after text : List Char} (apart : c ∉ cs)
    (ends : c :: after <:+ cs ++ text) : c :: after <:+ text := by
  induction cs with
  | nil => exact ends
  | cons d cs ih =>
    rw [List.mem_cons, not_or] at apart
    rcases List.suffix_cons_iff.mp ends with same | ends
    · exact absurd (List.cons.inj same).1 apart.1
    · exact ih apart.2 ends

theorem escapedEntity {entity text : List Char} (mem : entity ∈ entities) (escaped : Escaped text) :
    Escaped (entity ++ text) where
  raw c inside := by
    have own : ∀ entity ∈ entities, ∀ c ∈ entity, c ∉ ['<','>','"'] := by simp [entities]
    exact (List.mem_append.mp inside).elim (own entity mem c) (escaped.raw c)
  entity after ends := by
    have own : ∀ entity ∈ entities, entity.head? = some '&' ∧ '&' ∉ entity.tail := by decide
    obtain ⟨head, apart⟩ := own entity mem
    obtain ⟨tail, rfl⟩ := List.head?_eq_some_iff.mp head
    rcases List.suffix_cons_iff.mp ends with same | ends
    · exact ⟨'&' :: tail,mem,same ▸ List.prefix_append ('&' :: tail) text⟩
    · exact escaped.entity after (suffixBehind apart ends)

theorem escapedChar (c : Char) {text : List Char} (escaped : Escaped text) :
    Escaped (escapeChar c ++ text) := by
  unfold escapeChar
  split
  · exact escapedEntity (by decide) escaped
  · exact escapedEntity (by decide) escaped
  · exact escapedEntity (by decide) escaped
  · exact escapedEntity (by decide) escaped
  · rename_i first second third fourth
    refine escapedPlain ?_ escaped
    simpa using ⟨first,second,third,fourth⟩

theorem escapedEscape (s : String) : Escaped (escape s).toList := by
  rw [escape, String.toList_ofList]
  induction s.toList with
  | nil => exact escapedNil
  | cons c cs ih => exact escapedChar c ih

theorem unescapePlain {c : Char} (plain : c ≠ '&') (cs : List Char) :
    unescapeChars (c :: cs) = c :: unescapeChars cs := by
  rw [unescapeChars]
  all_goals
    rintro _ rfl
    exact absurd rfl plain

theorem unescapeChar (c : Char) (cs : List Char) :
    unescapeChars (escapeChar c ++ cs) = c :: unescapeChars cs := by
  unfold escapeChar
  split
  · rfl
  · rfl
  · rfl
  · rfl
  · rename_i plain _ _ _
    exact unescapePlain plain cs

theorem unescapeEscape (s : String) : unescape (escape s) = s := by
  have chars (cs : List Char) : unescapeChars (cs.flatMap escapeChar) = cs := by
    induction cs with
    | nil => rfl
    | cons c cs ih => rw [List.flatMap_cons, unescapeChar, ih]
  rw [unescape, escape, String.toList_ofList, chars, String.ofList_toList]

end Format

namespace Term
open Format (escape)

theorem shapeHtml (kind : Kind) : kind.shape .html = kind.shape .utf8 := by
  cases kind <;> rfl

theorem parenthesizesHtml (parent child : Kind) (index : Nat) :
    parent.parenthesizes child index .html = parent.parenthesizes child index .utf8 := by
  cases parent <;> rfl

theorem emitHtml (s : String) : Format.html.emit s = escape (Format.utf8.emit s) := rfl

theorem inParenthesesHtml (yes : Bool) (s : String) :
    inParentheses .html yes (escape s) = escape (inParentheses .utf8 yes s) := by
  cases yes with
  | false => rfl
  | true => simp only [inParentheses, if_true, Format.escapeAppend, emitHtml]

theorem concatHtml (ss : List String) : concat (ss.map escape) = escape (concat ss) := by
  induction ss with
  | nil => rfl
  | cons s ss ih => rw [List.map_cons, concat, concat, ih, Format.escapeAppend]

theorem renderChildHtml {depth : Option Nat} {ts : List Term}
    (each : ∀ t ∈ ts, t.render .html depth = escape (t.render .utf8 depth)) (parent : Kind)
    (index skip : Nat) : renderChild .html depth parent index skip ts =
      escape (renderChild .utf8 depth parent index skip ts) := by
  induction ts generalizing skip with
  | nil => cases skip <;> rfl
  | cons t ts ih =>
    obtain ⟨first, others⟩ := List.forall_mem_cons.mp each
    cases skip with
    | zero => rw [renderChild, renderChild, first, parenthesizesHtml, inParenthesesHtml]
    | succ skip => rw [renderChild, renderChild, ih others]

theorem renderChildrenHtml {depth : Option Nat} {ts : List Term}
    (each : ∀ t ∈ ts, t.render .html depth = escape (t.render .utf8 depth)) (parent : Kind)
    (glyph : String) (index : Nat) : renderChildren .html depth parent glyph index ts =
      escape (renderChildren .utf8 depth parent glyph index ts) := by
  induction ts generalizing index with
  | nil => rfl
  | cons t ts ih =>
    obtain ⟨first, others⟩ := List.forall_mem_cons.mp each
    have separator : (if index == 0 then "" else Format.html.emit glyph) =
        escape (if index == 0 then "" else Format.utf8.emit glyph) := by
      split <;> rfl
    rw [renderChildren, renderChildren, first, parenthesizesHtml, inParenthesesHtml, ih others,
      separator, ← Format.escapeAppend, ← Format.escapeAppend]

def NestedEscaped (ts : List Term) : Prop :=
  ∀ depth path, renderNested .html depth path ts = escape (renderNested .utf8 depth path ts)

theorem renderNestedHtml {ts : List Term}
    (each : ∀ t ∈ ts, (∀ depth, t.render .html depth = escape (t.render .utf8 depth)) ∧
      NestedEscaped t.children) : NestedEscaped ts := by
  intro depth path
  induction ts generalizing path with
  | nil => rfl
  | cons t ts ih =>
    obtain ⟨⟨first, below⟩, others⟩ := List.forall_mem_cons.mp each
    obtain ⟨kind, info, children, type?⟩ := t
    match path with
    | [] => rfl
    | (i + 1) :: path =>
      rw [renderNested, renderNested]
      exact ih others (i :: path)
    | [0] => rw [renderNested, renderNested, first, inParenthesesHtml]
    | 0 :: next :: path =>
      rw [renderNested, renderNested]
      · exact below depth (next :: path)
      · simp
      · simp

theorem renderHtml (t : Term) : (∀ depth, t.render .html depth = escape (t.render .utf8 depth)) ∧
    NestedEscaped t.children := by
  induction t using nodeInduction with
  | node kind info children type? ih =>
    refine ⟨fun depth => ?_,renderNestedHtml ih⟩
    have each (depth : Option Nat) : ∀ t ∈ children, t.render .html depth =
        escape (t.render .utf8 depth) := fun t mem => (ih t mem).1 depth
    rw [render, render, shapeHtml]
    split
    · rfl
    · rw [← concatHtml, List.map_map]
      refine congrArg concat (List.map_congr_left fun piece _ => ?_)
      cases piece with
      | child i => exact renderChildHtml (each _) kind i i
      | nested path => exact renderNestedHtml ih _ path
      | children glyph => exact renderChildrenHtml (each _) kind glyph 0
      | glyph _ | symbol _ | name | value => rfl

/-- The HTML text of any term, to any depth, is the plain one with entities in it, and nothing else
in it could be taken for markup. -/
theorem htmlEscaped (t : Term) (depth : Option Nat) :
    t.render .html depth = escape (t.render .utf8 depth) ∧
      Format.Escaped (t.render .html depth).toList ∧
      Format.unescape (t.render .html depth) = t.render .utf8 depth := by
  have same := (renderHtml t).1 depth
  refine ⟨same,?_,?_⟩
  · rw [same]
    exact Format.escapedEscape _
  · rw [same]
    exact Format.unescapeEscape _

example : (binary .less (localConstant "a&b" "0.a" sort)
    (localConstant "c" "0.c" sort)).render .html none = "a&amp;b &lt; c" := by
  decide +kernel

end Term

end ProofTutor
