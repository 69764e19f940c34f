import MemberOutline.Json.Number
import MemberOutline.Reading.Mismatch
import MemberOutline.Shape.Scan

/-!
# Shapes as JSON

A shape is written as an object with its two texts. It is read from such an object, whatever other
members that has, or from an array of the two texts.
-/

namespace MemberOutline

/-- What a JSON value is found to be. -/
def Json.found : Json → Reading.Found
  | .null => .null
  | .boolean b => .boolean b
  | .number n =>
    match n.value with
    | .integer n => .integer n
    | .double x => .float x
  | .string s => .string s
  | .array _ => .sequence
  | .object _ => .map

namespace Shape

/-- The member name of the sequence. -/
def sequenceKey : Text := "sequence".toList

/-- The member name of the leading text. -/
def leadingTextKey : Text := "leadingText".toList

/-- A shape as an object. -/
def toJson (s : Shape) : Json :=
  .object [(sequenceKey, .string s.sequence), (leadingTextKey, .string s.leadingText)]

/-- Why a value is no shape. -/
inductive ReadError where
  /-- A value of the wrong kind stands in place of the shape or of one of its texts. -/
  | mismatch (m : Reading.Mismatch)
  /-- The object has no member of this name. -/
  | missing (key : Text)
  /-- The array has fewer than two items. -/
  | tooShort (length : Nat)
  /-- The array has more than two items. -/
  | tooLong (length : Nat)
  deriving Repr

/-- Doubles in the messages on shapes have an exponent from `1e+16` on and below `0.00001`. -/
def floatLayout : Decimal.Layout where
  tie := .toEven
  plainPowers := some (-5, 15)

/-- The message for a value that is no shape. -/
def ReadError.message : ReadError → String
  | .mismatch m => m.message floatLayout
  | .missing key => "missing field \x60" ++ String.ofList key ++ "\x60"
  | .tooShort length => s!"invalid length {length}, expected struct ScanResult with 2 elements"
  | .tooLong length => s!"invalid length {length}, expected fewer elements in array"

/-- The text that a value is. -/
def textOf : Json → Except ReadError Text
  | .string s => .ok s
  | v => .error (.mismatch ⟨v.found, "a string"⟩)

/-- The text that an object holds under a name, if it has one there. -/
def textAt? (key : Text) (members : List (Text × Json)) : Except ReadError (Option Text) :=
  match Json.find? key members with
  | none => .ok none
  | some v => (textOf v).map some

/-- The shape that a value is. The members of an object are looked at in the order of their names
before any is missed. -/
def ofJson : Json → Except ReadError Shape
  | .object members => do
    let leadingText? ← textAt? leadingTextKey members
    let sequence? ← textAt? sequenceKey members
    match sequence?, leadingText? with
    | some sequence, some leadingText => .ok ⟨sequence, leadingText⟩
    | none, _ => .error (.missing sequenceKey)
    | some _, none => .error (.missing leadingTextKey)
  | .array [] => .error (.tooShort 0)
  | .array [v] => do
    let _ ← textOf v
    .error (.tooShort 1)
  | .array [v, w] => do
    let sequence ← textOf v
    let leadingText ← textOf w
    .ok ⟨sequence, leadingText⟩
  | .array (v :: w :: more) => do
    let _ ← textOf v
    let _ ← textOf w
    .error (.tooLong (more.length + 2))
  | v => .error (.mismatch ⟨v.found, "struct ScanResult"⟩)

end Shape

end MemberOutline
