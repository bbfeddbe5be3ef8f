import ProofTutor.Term.Basic
import ProofTutor.Text.Letter

/-!
The text of a term in each output format. A shape lays a node out as a sequence of children, fixed
glyphs and symbols, and a table of binding strengths says which children stand in parentheses. Every
piece of text goes through `Format.emit`, which escapes it for HTML and leaves it alone elsewhere.
-/

namespace ProofTutor

/-! ### Shapes -/

inductive Format where
  | utf8 | html | text | source
  deriving DecidableEq, Repr, Inhabited

namespace Format

def all : List Format := [.utf8, .text, .html, .source]

def name : Format → String
  | .utf8 => "utf8"
  | .html => "html"
  | .text => "text"
  | .source => "lean"

def ofName? (s : String) : Option Format :=
  match Text.lower s with
  | "utf8" | "utf-8" => some .utf8
  | "html" => some .html
  | "text" => some .text
  | "lean" | "lean-source" => some .source
  | _ => none

def refusal (s : String) : String :=
  "Invalid display format: " ++ s ++ ". Must be one of utf8, html, text, lean"

end Format

inductive Symbol where
  | and | or | not | implies | iff | falsity | truth | universal | existential | uniqueExistential
  | typeSeparator | notEquals | lessOrEqual | greaterOrEqual | belongs | included | union | inter
  | complementBefore | complementAfter | setMinus | imageOpen | preimageOpen | imageClose | empty
  | times | setOpen | setClose | arrow | mapsTo | sequence | family | indexedBy | type | prop
  deriving DecidableEq, Repr

namespace Symbol

def all : List Symbol :=
  [.and, .or, .not, .implies, .iff, .falsity, .truth, .universal, .existential, .uniqueExistential,
    .typeSeparator, .notEquals, .lessOrEqual, .greaterOrEqual, .belongs, .included, .union, .inter,
    .complementBefore, .complementAfter, .setMinus, .imageOpen, .preimageOpen, .imageClose, .empty,
    .times, .setOpen, .setClose, .arrow, .mapsTo, .sequence, .family, .indexedBy, .type, .prop]

def name : Symbol → String
  | .and => "and"
  | .or => "or"
  | .not => "not"
  | .implies => "implies"
  | .iff => "iff"
  | .falsity => "false"
  | .truth => "true"
  | .universal => "forall"
  | .existential => "exists"
  | .uniqueExistential => "exists_unique"
  | .typeSeparator => "type_sep"
  | .notEquals => "neq"
  | .lessOrEqual => "le"
  | .greaterOrEqual => "ge"
  | .belongs => "in"
  | .included => "subset"
  | .union => "union"
  | .inter => "inter"
  | .complementBefore => "complement_pre"
  | .complementAfter => "complement_post"
  | .setMinus => "setminus"
  | .imageOpen => "image_open"
  | .preimageOpen => "preimage_open"
  | .imageClose => "image_close"
  | .empty => "empty"
  | .times => "mult"
  | .setOpen => "set_open"
  | .setClose => "set_close"
  | .arrow => "to"
  | .mapsTo => "maps_to"
  | .sequence => "sequence"
  | .family => "family"
  | .indexedBy => "indexed_by"
  | .type => "type"
  | .prop => "prop"

def ofName? (name : String) : Option Symbol :=
  all.find? fun s => s.name == name

def texts : Symbol → String × String × String
  | .and => (" ∧ ", " and ", " ∧ ")
  | .or => (" ∨ ", " or ", " ∨ ")
  | .not => ("¬", "not ", "¬")
  | .implies => (" ⇒ ", " implies ", " → ")
  | .iff => (" ⇔ ", " iff ", " ↔ ")
  | .falsity => ("False", "false", "false")
  | .truth => ("True", "true", "true")
  | .universal => ("∀ ", "for all ", "∀ ")
  | .existential => ("∃ ", "there exists ", "∃ ")
  | .uniqueExistential => ("∃! ", "there exists a unique ", "∃! ")
  | .typeSeparator => (" ∈ ", " in ", " : ")
  | .notEquals => (" ≠ ", " != ", " ≠ ")
  | .lessOrEqual => (" ≤ ", " <= ", " ≤ ")
  | .greaterOrEqual => (" ≥ ", " >= ", " ≥ ")
  | .belongs => (" ∈ ", " belongs to ", " ∈ ")
  | .included => (" ⊂ ", " is included in ", " ⊆ ")
  | .union => (" ∪ ", " union ", " ∪ ")
  | .inter => (" ∩ ", " inter ", " ∩ ")
  | .complementBefore => ("", "complement of ", "")
  | .complementAfter => ("ᶜ", "", "ᶜ")
  | .setMinus => (" \\ ", " minus ", " \\ ")
  | .imageOpen => ("(", "(", " '' ")
  | .preimageOpen => ("⁻¹(", " inverse image of (", " ⁻¹' ")
  | .imageClose => (")", ")", "")
  | .empty => ("∅", "empty set", "∅")
  | .times => (" × ", " * ", " * ")
  | .setOpen => ("𝒫(", "subsets of ", "set ")
  | .setClose => (")", "", "")
  | .arrow => (" → ", " -> ", " → ")
  | .mapsTo => (" ↦ ", " maps to ", " ↦ ")
  | .sequence => ("sequence in ", "sequence in ", "")
  | .family => ("family of subsets of ", "family of subsets of ", "")
  | .indexedBy => (" indexed by ", " indexed by ", " → ")
  | .type => ("a set", "a set", "Type")
  | .prop => ("a proposition", "a proposition", "Prop")

def text (s : Symbol) : Format → String
  | .utf8 | .html => s.texts.1
  | .text => s.texts.2.1
  | .source => s.texts.2.2

end Symbol

inductive Piece where
  | child (index : Nat)
  | nested (path : List Nat)
  | glyph (text : String)
  | symbol (symbol : Symbol)
  | children (glyph : String)
  | name
  | value
  deriving DecidableEq, Repr

namespace Kind

def quantified (sign : Symbol) : List Piece :=
  [.symbol sign, .child 1, .symbol .typeSeparator, .child 0, .glyph ", ", .child 2]

def shape (kind : Kind) (format : Format) : List Piece :=
  match kind, format with
  | .application, .source => [.child 0, .glyph " ", .child 1]
  | .lambda, .source => [.glyph "λ ", .child 1, .glyph " : ", .child 0, .glyph ", ", .child 2]
  | .setFamily, .source | .sequence, .source => [.child 0, .glyph " → ", .child 1]
  | .and, _ => [.child 0, .symbol .and, .child 1]
  | .or, _ => [.child 0, .symbol .or, .child 1]
  | .not, _ => [.symbol .not, .child 0]
  | .implies, _ => [.child 0, .symbol .implies, .child 1]
  | .iff, _ => [.child 0, .symbol .iff, .child 1]
  | .falsity, _ => [.symbol .falsity]
  | .truth, _ => [.symbol .truth]
  | .universal, _ => quantified .universal
  | .existential, _ => quantified .existential
  | .uniqueExistential, _ => quantified .uniqueExistential
  | .equals, _ => [.child 0, .glyph " = ", .child 1]
  | .notEquals, _ => [.child 0, .symbol .notEquals, .child 1]
  | .less, _ => [.child 0, .glyph " < ", .child 1]
  | .lessOrEqual, _ => [.child 0, .symbol .lessOrEqual, .child 1]
  | .greater, _ => [.child 0, .glyph " > ", .child 1]
  | .greaterOrEqual, _ => [.child 0, .symbol .greaterOrEqual, .child 1]
  | .belongs, _ => [.child 0, .symbol .belongs, .child 1]
  | .included, _ => [.child 0, .symbol .included, .child 1]
  | .union, _ => [.child 0, .symbol .union, .child 1]
  | .inter, _ => [.child 0, .symbol .inter, .child 1]
  | .complement, _ => [.symbol .complementBefore, .child 0, .symbol .complementAfter]
  | .setDifference, _ => [.child 0, .symbol .setMinus, .child 1]
  | .image, _ => [.child 0, .symbol .imageOpen, .child 1, .symbol .imageClose]
  | .inverseImage, _ => [.child 0, .symbol .preimageOpen, .child 1, .symbol .imageClose]
  | .setExtension, _ => [.glyph "\x7b", .children ", ", .glyph "\x7d"]
  | .emptySet, _ => [.symbol .empty]
  | .sum, _ => [.child 0, .glyph " + ", .child 1]
  | .difference, _ => [.child 0, .glyph " - ", .child 1]
  | .product, _ => [.child 0, .symbol .times, .child 1]
  | .quotient, _ => [.child 0, .glyph " / ", .child 1]
  | .power, _ => [.child 0, .glyph "^", .child 1]
  | .minus, _ => [.glyph "-", .child 0]
  | .number, _ => [.value]
  | .set, _ => [.symbol .setOpen, .child 0, .symbol .setClose]
  | .function, _ => [.child 0, .symbol .arrow, .child 1]
  | .sequence, _ => [.symbol .sequence, .child 1, .symbol .indexedBy, .child 0]
  | .setFamily, _ => [.symbol .family, .nested [1, 0], .symbol .indexedBy, .child 0]
  | .type, _ => [.symbol .type]
  | .prop, _ => [.symbol .prop]
  | .lambda, _ => [.child 1, .symbol .mapsTo, .child 2]
  | .application, _ => [.child 0, .glyph "(", .child 1, .glyph ")"]
  | .parentheses, _ => [.glyph "(", .child 0, .glyph ")"]
  | .boundVar, _ | .localConstant, _ | .constant, _ | .metavar, _ | .rawCode, _ => [.name]
  | .noType, _ => [.glyph "?"]

/-- Binding strength: the higher, the tighter. From 200 on a node is closed by itself. -/
def strength : Kind → Nat
  | .universal | .existential | .uniqueExistential | .lambda => 5
  | .iff => 10
  | .function | .sequence | .setFamily => 15
  | .implies => 20
  | .or => 30
  | .and => 40
  | .not => 50
  | .equals | .notEquals | .less | .lessOrEqual | .greater | .greaterOrEqual | .belongs
  | .included => 60
  | .union | .setDifference => 70
  | .inter => 75
  | .sum | .difference => 80
  | .product | .quotient => 90
  | .minus => 95
  | .power => 100
  | .complement => 105
  | .image | .inverseImage | .set => 110
  | .application => 120
  | _ => 200

def isAssociative : Kind → Bool
  | .and | .or | .sum | .product | .union | .inter => true
  | _ => false

def parenthesizesEqual (parent child : Kind) (index : Nat) : Bool :=
  match parent with
  | .implies | .power | .function => index == 0
  | .difference | .quotient => 0 < index
  | .not | .minus | .complement => false
  | _ => !(parent.isAssociative && child == parent)

def parenthesizes (parent child : Kind) (index : Nat) (format : Format) : Bool :=
  if 200 ≤ child.strength then false
  else
    let byStrength :=
      if child.strength < parent.strength then true
      else if parent.strength < child.strength then false
      else parenthesizesEqual parent child index
    match parent with
    | .universal | .existential | .uniqueExistential => false
    | .lambda => format == .source && index == 0 && child.strength ≤ parent.strength
    | .parentheses | .setExtension => false
    | .application | .image | .inverseImage => index == 0 || format == .source
    | .set => format == .source
    | .setFamily | .sequence => if format == .source then byStrength else false
    | _ => byStrength

end Kind

/-! ### Texts -/

namespace Format

def escapeChar (c : Char) : List Char :=
  match c with
  | '&' => "&amp;".toList
  | '<' => "&lt;".toList
  | '>' => "&gt;".toList
  | '"' => "&quot;".toList
  | c => [c]

def escape (s : String) : String :=
  .ofList (s.toList.flatMap escapeChar)

def emit (format : Format) (s : String) : String :=
  if format == .html then escape s else s

end Format

namespace Term

def shownName (info : Info) : String :=
  match info.name with
  | some name => if name.isEmpty then info.identifier.getD "?" else name
  | none => info.identifier.getD "?"

def concat : List String → String
  | [] => ""
  | s :: ss => s ++ concat ss

def inParentheses (format : Format) (yes : Bool) (s : String) : String :=
  if yes then format.emit "(" ++ s ++ format.emit ")" else s

mutual

/-- The text of a term. `depth` bounds the nesting that is shown; below it stands an ellipsis, in
the place of every term that has children. -/
def render (format : Format) (depth : Option Nat) : Term → String
  | ⟨kind, info, children, _⟩ =>
    if depth == some 0 && !children.isEmpty then format.emit "…"
    else
      let next := depth.map (· - 1)
      concat <| (kind.shape format).map fun piece =>
        match piece with
        | .child i => renderChild format next kind i i children
        | .nested path => renderNested format next path children
        | .glyph text => format.emit text
        | .symbol s => format.emit (s.text format)
        | .children glyph => renderChildren format next kind glyph 0 children
        | .name => format.emit (shownName info)
        | .value => format.emit (info.value.getD "?")

def renderChild (format : Format) (depth : Option Nat) (parent : Kind) (index : Nat) :
    (skip : Nat) → List Term → String
  | _, [] => format.emit "?"
  | 0, t :: _ =>
    inParentheses format (parent.parenthesizes t.kind index format) (render format depth t)
  | skip + 1, _ :: ts => renderChild format depth parent index skip ts

def renderChildren (format : Format) (depth : Option Nat) (parent : Kind) (glyph : String)
    (index : Nat) : List Term → String
  | [] => ""
  | t :: ts =>
    (if index == 0 then "" else format.emit glyph) ++
      (inParentheses format (parent.parenthesizes t.kind index format) (render format depth t) ++
        renderChildren format depth parent glyph (index + 1) ts)

def renderNested (format : Format) (depth : Option Nat) : List Nat → List Term → String
  | _, [] => format.emit "?"
  | [], _ => format.emit "?"
  | (i + 1) :: path, _ :: ts => renderNested format depth (i :: path) ts
  | [0], t :: _ => inParentheses format (!t.children.isEmpty) (render format depth t)
  | 0 :: path, ⟨_, _, children, _⟩ :: _ => renderNested format depth path children

end

def display (t : Term) : String :=
  t.render .utf8 none

def needsParentheses (t : Term) (index : Nat) (format : Format) : Bool :=
  match t.children[index]? with
  | some child => t.kind.parenthesizes child.kind index format
  | none => false

end Term

end ProofTutor
