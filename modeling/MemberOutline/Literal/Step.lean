import MemberOutline.Literal.Context
import MemberOutline.Text.Walk

/-!
# Steps through a text with literals

`step` looks at one position of a text: the character before it, the character at it and all that
follow. It answers whether the character is declaration code or how many characters belong to a
literal, and gives the contexts open after it. It looks at most three characters ahead, and behind
only to tell the `r` of a raw string from the last letter of an identifier.

A visit is a step taken at a position of a text. `visits` walks from the start, each step leading to
the position after the characters it covers; `visitsAt` takes a step at each of the given positions,
whatever they are, with the contexts that the step before left open.
-/

namespace MemberOutline.Literal

/-- What a step says of the position it looks at. -/
inductive Step where
  /-- The character is declaration code. -/
  | code
  /-- This many characters, from this one on, belong to a literal. -/
  | consumed (width : Nat)
  deriving DecidableEq, Repr

/-- How many characters a step covers. -/
def Step.width : Step → Nat
  | .code => 1
  | .consumed width => width

/-- The string that opens at a quote with these characters after it. -/
def openString (quote : Quote) (raw : Bool) (rest : Text) : Context × Nat :=
  let delimiter : Delimiter := ⟨quote, [quote.char, quote.char].isPrefixOf rest⟩
  (.string delimiter raw, delimiter.width)

/-- The context that opens at a character, with the width of its opening. The letter of a raw string
stands directly before the quote and does not end an identifier. -/
def opening? (before : Option Char) (c : Char) (rest : Text) : Option (Context × Nat) :=
  if c = '/' ∧ rest.head? = some '/' then some (.lineComment, 2)
  else if c = '/' ∧ rest.head? = some '*' then some (.blockComment 1, 2)
  else
    match Quote.ofChar? c with
    | some quote => some (openString quote false rest)
    | none =>
      if (c = 'r' ∨ c = 'R') ∧ ¬ before.any Text.isIdentifierChar then
        match rest with
        | q :: more =>
          (Quote.ofChar? q).map fun quote =>
            let (context, width) := openString quote true more
            (context, width + 1)
        | [] => none
      else none

/-- Inside an interpolation, a brace that belongs to no literal opens or closes a level; the brace
that closes the last one ends the interpolation. -/
def braceStep (c : Char) (braces : Nat) (outer : Stack) : Stack :=
  if c = '{' then .interpolation (braces + 1) :: outer
  else if c = '}' then
    match braces with
    | 0 => outer
    | inner + 1 => .interpolation inner :: outer
  else .interpolation braces :: outer

/-- Inside a string: an escape covers the next character too, an interpolation opens, the delimiter
closes, and a line feed ends a string that may not span lines. -/
def stringStep (delimiter : Delimiter) (raw : Bool) (c : Char) (rest : Text) (outer : Stack) :
    Step × Stack :=
  let here := Context.string delimiter raw :: outer
  if !raw && c = '\\' then (.consumed 2, here)
  else if !raw && c = '$' && rest.head? = some '{' then (.consumed 2, .interpolation 0 :: here)
  else if delimiter.text.isPrefixOf (c :: rest) then (.consumed delimiter.width, outer)
  else if !delimiter.triple && c = '\n' then (.consumed 1, outer)
  else (.consumed 1, here)

/-- Inside a block comment: comments nest. -/
def commentStep (depth : Nat) (c : Char) (rest : Text) (outer : Stack) : Step × Stack :=
  if c = '/' ∧ rest.head? = some '*' then (.consumed 2, .blockComment (depth + 1) :: outer)
  else if c = '*' ∧ rest.head? = some '/' then
    (.consumed 2, if depth ≤ 1 then outer else .blockComment (depth - 1) :: outer)
  else (.consumed 1, .blockComment depth :: outer)

/-- One step at a character, with the contexts open before and after it. -/
def step (stack : Stack) (before : Option Char) (c : Char) (rest : Text) : Step × Stack :=
  match stack with
  | [] =>
    match opening? before c rest with
    | some (context, width) => (.consumed width, [context])
    | none => (.code, [])
  | .interpolation braces :: outer =>
    match opening? before c rest with
    | some (context, width) => (.consumed width, context :: stack)
    | none => (.consumed 1, braceStep c braces outer)
  | .lineComment :: outer => (.consumed 1, if c = '\n' then outer else stack)
  | .blockComment depth :: outer => commentStep depth c rest outer
  | .string delimiter raw :: outer => stringStep delimiter raw c rest outer

/-- A step taken at a position, with the contexts open after it. -/
abbrev Visit := Text.Stop Stack Step

/-- The step at a character between those before it, the nearest first, and those after it. -/
def stride : Text.Stride Stack Step := fun stack seen c rest => step stack seen.head? c rest

/-- The visits of a walk through a text from its start. -/
def visits (t : Text) : List Visit := Text.stops Step.width stride [] 0 0 [] t

/-- The visit to a position of a text, if the text has it. -/
def visit? (stack : Stack) (t : Text) (position : Nat) : Option Visit :=
  match t.drop position with
  | [] => none
  | c :: rest =>
    let (answer, after) := step stack (t.take position).getLast? c rest
    some ⟨position, answer, after⟩

/-- The visits to the given positions in turn; positions outside the text are passed over. -/
def visitsAt (t : Text) (stack : Stack) : List Nat → List Visit
  | [] => []
  | position :: more =>
    match visit? stack t position with
    | some v => v :: visitsAt t v.state more
    | none => visitsAt t stack more

end MemberOutline.Literal
