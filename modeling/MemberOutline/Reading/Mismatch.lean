import MemberOutline.Decimal.Layout
import MemberOutline.Text.Character

/-!
# Values of the wrong kind

A document that is read into a fixed form may hold something else at a place. `Found` is what was
found there, and `Mismatch` says what would have been right. Each kind of document has its own
layout for the doubles in these messages.
-/

namespace MemberOutline.Reading

/-- What a document holds at a place. -/
inductive Found where
  | null
  | boolean (b : Bool)
  | integer (n : Int)
  | float (x : Float)
  | string (s : Text)
  | sequence
  | map
  deriving Repr

/-- The words for what was found, with doubles in this layout. -/
def Found.describe (layout : Decimal.Layout) : Found → String
  | .null => "null"
  | .boolean b => s!"boolean \x60{b}\x60"
  | .integer n => s!"integer \x60{n}\x60"
  | .float x => "floating point \x60" ++ layout.float x ++ "\x60"
  | .string s => "string " ++ String.ofList (Text.quoted s)
  | .sequence => "sequence"
  | .map => "map"

/-- Something was found where something else was expected. -/
structure Mismatch where
  found : Found
  expected : String
  deriving Repr

/-- The message for a mismatch, with doubles in this layout. -/
def Mismatch.message (layout : Decimal.Layout) (m : Mismatch) : String :=
  "invalid type: " ++ m.found.describe layout ++ ", expected " ++ m.expected

end MemberOutline.Reading
