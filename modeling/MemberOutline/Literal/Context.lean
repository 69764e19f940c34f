import MemberOutline.Text.Character

/-!
# Literal contexts

Inside a string or a comment no character is declaration code. A `Context` says what is open: a
string with its delimiter, a comment, or an interpolation `${ … }` inside a string, which may hold
literals of its own. The open contexts form a stack with the innermost first; the empty stack is
plain code.
-/

namespace MemberOutline.Literal

/-- The two quote characters. -/
inductive Quote where
  | single
  | double
  deriving DecidableEq, Repr

/-- The character of a quote. -/
def Quote.char : Quote → Char
  | .single => '\x27'
  | .double => '\x22'

/-- The quote that a character is, if it is one. -/
def Quote.ofChar? (c : Char) : Option Quote :=
  if c = '\x27' then some .single else if c = '\x22' then some .double else none

/-- The delimiter of a string: one quote or three. -/
structure Delimiter where
  /-- The quote that the delimiter repeats. -/
  quote : Quote
  /-- Whether it is written three times. -/
  triple : Bool
  deriving DecidableEq, Repr

/-- How many characters a delimiter has. -/
def Delimiter.width (d : Delimiter) : Nat := if d.triple then 3 else 1

/-- The characters of a delimiter. -/
def Delimiter.text (d : Delimiter) : Text := List.replicate d.width d.quote.char

/-- A string, comment or interpolation that is open. -/
inductive Context where
  /-- A string; a raw one knows neither escapes nor interpolations. -/
  | string (delimiter : Delimiter) (raw : Bool)
  /-- A comment up to the end of the line. -/
  | lineComment
  /-- A block comment with its count of open comments, itself included. -/
  | blockComment (depth : Nat)
  /-- An interpolation with its count of open inner braces. -/
  | interpolation (braces : Nat)
  deriving DecidableEq, Repr

/-- The open contexts, innermost first. -/
abbrev Stack := List Context

/-- The innermost open context as it is shown in messages. -/
def describe : Option Context → String
  | none => "Outside"
  | some (.string ⟨.single, false⟩ raw) => s!"InSingleQuote \x7b raw: {raw} \x7d"
  | some (.string ⟨.double, false⟩ raw) => s!"InDoubleQuote \x7b raw: {raw} \x7d"
  | some (.string ⟨.single, true⟩ raw) => s!"InTripleSingle \x7b raw: {raw} \x7d"
  | some (.string ⟨.double, true⟩ raw) => s!"InTripleDouble \x7b raw: {raw} \x7d"
  | some .lineComment => "LineComment"
  | some (.blockComment depth) => s!"BlockComment \x7b depth: {depth} \x7d"
  | some (.interpolation braces) => s!"Interpolation \x7b braces: {braces} \x7d"

end MemberOutline.Literal
