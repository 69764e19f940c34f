import MemberOutline.Shape.Json

/-!
# Class members

What an outline shows of one member of a class: its kind, its name, the modifiers in front of it,
whether it has a body, and a short label. The JSON object for a member holds all of this in the
order in which a reader asks for it.
-/

namespace MemberOutline

/-- What a declaration declares. -/
inductive Member.Kind where
  | field
  | getter
  | setter
  | method
  | operator
  | constructor
  | unknown
  deriving DecidableEq, Repr

/-- The word for a kind. -/
def Member.Kind.word : Member.Kind → String
  | .field => "field"
  | .getter => "getter"
  | .setter => "setter"
  | .method => "method"
  | .operator => "operator"
  | .constructor => "constructor"
  | .unknown => "unknown"

/-- A classified declaration. -/
structure Member where
  /-- What it declares. -/
  kind : Member.Kind
  /-- Its name: the symbol after `operator` for an operator, with the class for a constructor. -/
  name : Text
  /-- The modifiers it starts with, in order. -/
  modifiers : List Text
  /-- Whether `static` is one of them. -/
  isStatic : Bool
  /-- Whether it has a body, or an initial value if it is a field. -/
  hasBody : Bool
  /-- What the outline shows for it. -/
  label : Text
  /-- The shape it was classified by. -/
  shape : Shape
  deriving DecidableEq, Repr

/-- A member as an object. -/
def Member.toJson (m : Member) : Json :=
  .object
    [("kind".toList, .string m.kind.word.toList),
      ("name".toList, .string m.name),
      ("modifiers".toList, .array (m.modifiers.map .string)),
      ("isStatic".toList, .boolean m.isStatic),
      ("hasBody".toList, .boolean m.hasBody),
      ("label".toList, .string m.label),
      ("shape".toList, m.shape.toJson)]

end MemberOutline
