import MemberOutline.Text.Basic

/-!
# JSON values

A value keeps the members of an object in the order of the text and a number as it is written, so
that a reader loses nothing that a later stage may need.
-/

namespace MemberOutline

/-- A number as it is written. -/
structure Json.Numeral where
  /-- Whether it starts with a minus sign. -/
  negative : Bool
  /-- The digits before the point. -/
  whole : Text
  /-- The digits after the point, if there is one. -/
  fraction : Option Text
  /-- Whether the exponent has a minus sign, and its digits, if there is one. -/
  exponent : Option (Bool × Text)
  deriving DecidableEq, Repr

/-- A JSON value. -/
inductive Json where
  | null
  | boolean (b : Bool)
  | number (n : Json.Numeral)
  | string (s : Text)
  | array (items : List Json)
  | object (members : List (Text × Json))
  deriving Repr, Inhabited

namespace Json

/-- The numeral of a natural number. -/
def Numeral.ofNat (n : Nat) : Numeral := ⟨false, (toString n).toList, none, none⟩

/-- The natural number that a numeral without sign, point and exponent stands for. -/
def Numeral.toNat? : Numeral → Option Nat
  | ⟨false, whole, none, none⟩ => some (Text.valueOf 10 whole)
  | _ => none

/-- The last member of an object with this name. -/
def find? (key : Text) (members : List (Text × Json)) : Option Json :=
  (members.reverse.find? fun m => m.1 == key).map (·.2)

end Json

end MemberOutline
