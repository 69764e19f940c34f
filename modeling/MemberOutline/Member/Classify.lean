import MemberOutline.Text.Words
import MemberOutline.Shape.Scan
import MemberOutline.Member.Basic
import MemberOutline.Member.Keyword

/-!
# Classifying a declaration

The kind of a member follows from its shape. The word `operator` in the leading text comes first,
then `get` or `set` before the last word, then a constructor by its modifier or its name; what is
left is told apart by the first token.
-/

namespace MemberOutline.Member

/-- The words that may stand in front of a declaration without being part of its type. -/
def modifierWords : List Text :=
  ["static", "final", "const", "late", "external", "abstract", "covariant", "factory", "var"].map
    String.toList

/-- Whether a name is that of a class or of one of its named constructors. -/
def namesClass (name className : Text) : Bool :=
  className ≠ [] &&
    (name = className ||
      match Text.after? className name with
      | some rest => rest.head? = some '.'
      | none => false)

/-- Whether a member with these modifiers and this name constructs the class around it. -/
def isConstructor (modifiers : List Text) (name : Text) (className : Option Text) : Bool :=
  modifiers.contains "factory".toList || className.any (namesClass name)

/-- Whether the first token is a single `=`, or one of a `==`. -/
def startsWithEquals (sequence : Text) : Bool :=
  sequence.head? = some '=' && !"=>".toList.isPrefixOf sequence

/-- Whether a sequence is that of a field: empty, a semicolon alone, or an initial value first. -/
def isFieldSequence (sequence : Text) : Bool :=
  sequence = [] || sequence = [';'] || startsWithEquals sequence

/-- Whether a `=>` occurs in a text. -/
def hasArrow : Text → Bool
  | [] => false
  | c :: rest => (c = '=' && rest.head? = some '>') || hasArrow rest

/-- The kind and the name of the member with this declaration, shape, modifiers and class. -/
def kindAndName (declaration : Text) (shape : Shape) (modifiers : List Text)
    (className : Option Text) : Kind × Text :=
  let words := Text.words shape.leadingText
  let lastWord := words.getLast?.getD []
  if words.contains Shape.operatorWord then (.operator, operatorName declaration)
  else
    match accessor? shape.leadingText with
    | some (.get, name) => (.getter, name)
    | some (.set, name) => (.setter, name)
    | none =>
      if isConstructor modifiers lastWord className then (.constructor, lastWord)
      else if shape.sequence.head? = some '(' then (.method, lastWord)
      else if isFieldSequence shape.sequence ∧ lastWord ≠ [] then (.field, lastWord)
      else (.unknown, lastWord)

/-- Whether a member of this kind has a body: an initial value for a field, a block or an arrow for
all others. -/
def bodyOf (kind : Kind) (sequence : Text) : Bool :=
  match kind with
  | .field => startsWithEquals sequence
  | _ => sequence.contains '{' || hasArrow sequence

/-- What the outline shows for a member. -/
def labelOf (kind : Kind) (name leadingText : Text) : Text :=
  match kind with
  | .getter => "get ".toList ++ name
  | .setter => "set ".toList ++ name
  | .method | .operator | .constructor => name ++ "()".toList
  | .field => name
  | .unknown => leadingText

/-- The member with this declaration and shape in a class. -/
def ofShape (declaration : Text) (shape : Shape) (className : Option Text) : Member :=
  let modifiers := (Text.words shape.leadingText).takeWhile modifierWords.contains
  let (kind, name) := kindAndName declaration shape modifiers className
  { kind, name, modifiers, shape
    isStatic := modifiers.contains "static".toList
    hasBody := bodyOf kind shape.sequence
    label := labelOf kind name shape.leadingText }

/-- The member that a text declares in a class. -/
def ofText (strip : Bool) (declaration : Text) (className : Option Text) : Member :=
  ofShape declaration (Shape.ofText strip declaration) className

end MemberOutline.Member
