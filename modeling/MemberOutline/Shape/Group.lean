import MemberOutline.Text.Character

/-!
# Groups

The groups that a declaration opens and closes: round, square and curly ones, and the angles around
type arguments. An angle is only a guess, since `<` also compares. It opens directly after an
identifier, and it is given up at the first character that no type arguments hold.
-/

namespace MemberOutline.Shape

/-- A kind of group. -/
inductive Group where
  | round
  | square
  | curly
  /-- Type arguments. -/
  | angle
  deriving DecidableEq, Repr

namespace Group

/-- The group that a character opens for certain. -/
def ofOpener? (c : Char) : Option Group :=
  if c = '(' then some .round else if c = '[' then some .square else if c = '{' then some .curly
  else none

/-- The group that a character closes for certain. -/
def ofCloser? (c : Char) : Option Group :=
  if c = ')' then some .round else if c = ']' then some .square else if c = '}' then some .curly
  else none

end Group

/-- The word after which a symbol names an operator. -/
def operatorWord : Text := "operator".toList

/-- The identifier that ends a text, given from its end. -/
def endingWord (seen : Text) : Text := (seen.takeWhile Text.isIdentifierChar).reverse

/-- Whether a `<` opens type arguments after these characters, the nearest first: they end in an
identifier other than `operator`. -/
def opensArguments (seen : Text) : Bool :=
  endingWord seen ≠ [] && endingWord seen ≠ operatorWord

/-- Whether type arguments can hold a character: those of identifiers, blanks, commas, points,
question marks, angles and round brackets. -/
def argumentsHold (c : Char) : Bool :=
  Text.isIdentifierChar c || Text.isBlank c || [',', '.', '?', '<', '>', '(', ')'].contains c

end MemberOutline.Shape
