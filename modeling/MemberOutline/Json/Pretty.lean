import MemberOutline.Json.Basic
import MemberOutline.Text.Words

/-!
# Writing JSON

The layout for readers: every item and member on a line of its own, two spaces of indentation a
level, and nothing between the brackets of an empty array or object.
-/

namespace MemberOutline.Json

/-- One character as it stands inside a string: quotes, backslashes and controls are escaped, all
else stands for itself. -/
def escapedChar (c : Char) : Text :=
  if c = '\x22' then ['\\', '\x22']
  else if c = '\\' then ['\\', '\\']
  else if c = '\x08' then ['\\', 'b']
  else if c = '\t' then ['\\', 't']
  else if c = '\n' then ['\\', 'n']
  else if c = '\x0c' then ['\\', 'f']
  else if c = '\r' then ['\\', 'r']
  else if c.toNat < 0x20 then
    ['\\', 'u', '0', '0', Text.hexDigit (c.toNat / 16), Text.hexDigit (c.toNat % 16)]
  else [c]

/-- A string between its quotes. -/
def stringText (s : Text) : Text := '\x22' :: s.flatMap escapedChar ++ ['\x22']

/-- A number as it is written. -/
def Numeral.text (n : Numeral) : Text :=
  (if n.negative then ['-'] else []) ++ n.whole ++
    (match n.fraction with
      | some digits => '.' :: digits
      | none => []) ++
    (match n.exponent with
      | some (true, digits) => 'e' :: '-' :: digits
      | some (false, digits) => 'e' :: digits
      | none => [])

/-- A new line with the indentation of a level. -/
def newLine (level : Nat) : Text := '\n' :: List.replicate (2 * level) ' '

mutual

/-- The text of a value whose own line stands at a level. -/
def prettyAt (level : Nat) : Json → Text
  | .null => "null".toList
  | .boolean true => "true".toList
  | .boolean false => "false".toList
  | .number n => n.text
  | .string s => stringText s
  | .array [] => "[]".toList
  | .array (item :: more) =>
    '[' :: newLine (level + 1) ++ prettyAt (level + 1) item ++ prettyItems (level + 1) more ++
      newLine level ++ [']']
  | .object [] => "\x7b\x7d".toList
  | .object ((key, item) :: more) =>
    '{' :: newLine (level + 1) ++ stringText key ++ ": ".toList ++ prettyAt (level + 1) item ++
      prettyMembers (level + 1) more ++ newLine level ++ ['}']

/-- The items after the first, each after a comma on a line of its own. -/
def prettyItems (level : Nat) : List Json → Text
  | [] => []
  | item :: more => ',' :: newLine level ++ prettyAt level item ++ prettyItems level more

/-- The members after the first, each after a comma on a line of its own. -/
def prettyMembers (level : Nat) : List (Text × Json) → Text
  | [] => []
  | (key, item) :: more =>
    ',' :: newLine level ++ stringText key ++ ": ".toList ++ prettyAt level item ++
      prettyMembers level more

end

/-- The text of a value. -/
def pretty (value : Json) : Text := prettyAt 0 value

end MemberOutline.Json
