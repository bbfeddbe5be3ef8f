import ProofTutor.Json.Basic
import ProofTutor.Term.Pattern
import ProofTutor.Term.Display
import ProofTutor.Text.Basic

/-!
Terms, patterns and the shapes of their nodes as JSON.
-/

namespace ProofTutor

/-! ### Terms and patterns -/

namespace Json

def ofNat? (n : Option Nat) : Json :=
  ofOption .ofNat n

def word? (json : Json) : Option Nat :=
  json.nat? Text.word64

mutual

def depth : Json → Nat
  | .arr items => depthOf items + 1
  | .obj members => depthOfMembers members + 1
  | _ => 0

def depthOf : List Json → Nat
  | [] => 0
  | item :: items => max (depth item) (depthOf items)

def depthOfMembers : List (String × Json) → Nat
  | [] => 0
  | (_, value) :: members => max (depth value) (depthOfMembers members)

end

end Json

namespace Info

def toJson (info : Info) : Json :=
  .obj <| Json.present
    [("name", info.name.map .str), ("value", info.value.map .str),
      ("identifier", info.identifier.map .str), ("bound_var_number", info.number.map .ofNat),
      ("binder_info", info.binder.map .str), ("pp_type", info.typeText.map .str)]

def names : List String :=
  ["name", "value", "identifier", "bound_var_number", "binder_info", "pp_type"]

def ofJson? (json : Json) : Option Info := do
  let json ← json.record? names 0
  return {
    name := ← json.optional? "name" Json.str?
    value := ← json.optional? "value" Json.str?
    identifier := ← json.optional? "identifier" Json.str?
    number := ← json.optional? "bound_var_number" (Json.nat? Text.word32)
    binder := ← json.optional? "binder_info" Json.str?
    typeText := ← json.optional? "pp_type" Json.str? }

end Info

namespace Kind

def ofJson? (json : Json) : Option Kind :=
  json.str?.bind ofTag?

end Kind

namespace Term

mutual

def toJson : Term → Json
  | ⟨kind, info, children, type?⟩ =>
    .obj <| ("node", .str kind.tag) :: Json.present
      [("info", if info.isEmpty then none else some info.toJson),
        ("children", if children.isEmpty then none else some (.arr (toJsonAll children))),
        ("math_type", match type? with
          | some type => some (toJson type)
          | none => none)]

def toJsonAll : List Term → List Json
  | [] => []
  | t :: ts => toJson t :: toJsonAll ts

end

def ofJsonWithin? : (fuel : Nat) → Json → Option Term
  | 0, _ => none
  | fuel + 1, json => do
    let json ← json.record? ["node", "info", "children", "math_type"] 1
    return {
      kind := ← json.required? "node" Kind.ofJson?
      info := ← json.defaulted? "info" {} Info.ofJson?
      children := ← json.defaulted? "children" [] (Json.list? (ofJsonWithin? fuel))
      type? := ← json.optional? "math_type" (ofJsonWithin? fuel) }

def ofJson? (json : Json) : Option Term :=
  ofJsonWithin? (json.depth + 1) json

end Term

namespace Pattern

def ofJsonWithin? : (fuel : Nat) → Json → Option Pattern
  | fuel + 1, .obj [("Node", json)] => do
    let json ← json.record? ["node", "name", "children"] 3
    return .node (← json.required? "node" Kind.ofJson?) (← json.optional? "name" Json.str?)
      (← json.required? "children" (Json.list? (ofJsonWithin? fuel)))
  | fuel + 1, .obj [("Metavar", json)] => do
    let json ← json.record? ["number", "math_type"] 2
    return .hole (← json.required? "number" (Json.nat? Text.word64))
      (← json.optional? "math_type" (ofJsonWithin? fuel))
  | _, .obj [("Bound", json)] => (json.nat? Text.word32).map .bound
  | _, .obj [("Exact", json)] => (Term.ofJson? json).map .exact
  | _, _ => none

def ofJson? (json : Json) : Option Pattern :=
  ofJsonWithin? (json.depth + 1) json

end Pattern

/-! ### Shapes -/

namespace Piece

def toJson : Piece → Json
  | .child i => .obj [("child", .ofNat i)]
  | .nested path => .obj [("nested", .ofList .ofNat path)]
  | .glyph text => .obj [("glyph", .str text)]
  | .symbol s => .obj [("macro", .str s.name)]
  | .children between => .obj [("children", .str between)]
  | .name => .str "name"
  | .value => .str "value"

end Piece

namespace Kind

def profile (k : Kind) : Json :=
  .obj [("tag", .str k.tag), ("arity", .ofNat? k.arity?), ("binder", .bool k.isBinder),
    ("quantifier", .bool k.isQuantifier), ("prop_kind", .bool k.isPropositional),
    ("type_kind", .bool k.isTypeFormer), ("precedence", .ofNat k.strength),
    ("shapes", .obj (Format.all.map fun format =>
      (format.name, .ofList Piece.toJson (k.shape format))))]

end Kind

end ProofTutor
