import MemberOutline.Text.Character

/-!
# Words, lines and trimming

A text splits into words at blanks and into lines at line feeds. A carriage return before a line
feed belongs to the line break, and a line break at the very end starts no further line.
-/

namespace MemberOutline.Text

/-- The words of a text whose current word is collected, reversed, in the first argument. -/
def wordsFrom : Text → Text → List Text
  | [], [] => []
  | word@(_ :: _), [] => [word.reverse]
  | word, c :: rest =>
    if isBlank c then
      match word with
      | [] => wordsFrom [] rest
      | _ :: _ => word.reverse :: wordsFrom [] rest
    else wordsFrom (c :: word) rest

/-- The maximal runs of characters that are not blank, in order. -/
def words (t : Text) : List Text := wordsFrom [] t

/-- The text without the blanks at its start. -/
def trimStart (t : Text) : Text := t.dropWhile isBlank

/-- The text without the blanks at its end. -/
def trimEnd (t : Text) : Text := (t.reverse.dropWhile isBlank).reverse

/-- The text without the blanks at both ends. -/
def trim (t : Text) : Text := trimEnd (trimStart t)

/-- The line without the carriage return that ends it, if one does. -/
def dropCarriageReturn (line : Text) : Text :=
  if line.getLast? = some '\r' then line.dropLast else line

/-- The lines of a text whose current line is collected, reversed, in the first argument. -/
def linesFrom : Text → Text → List Text
  | [], [] => []
  | line@(_ :: _), [] => [line.reverse]
  | line, c :: rest =>
    if c = '\n' then dropCarriageReturn line.reverse :: linesFrom [] rest
    else linesFrom (c :: line) rest

/-- The lines of a text, without their line breaks. -/
def lines (t : Text) : List Text := linesFrom [] t

/-- The parts of a text between separators, empty ones included. -/
def splitOn (separator : Char) : Text → List Text
  | [] => [[]]
  | c :: rest =>
    if c = separator then [] :: splitOn separator rest
    else
      match splitOn separator rest with
      | [] => [[c]]
      | part :: more => (c :: part) :: more

/-- The texts one after the other, with a separator between any two. -/
def joinWith (separator : Text) : List Text → Text
  | [] => []
  | [t] => t
  | t :: more => t ++ separator ++ joinWith separator more

/-- The text with spaces after it up to the width; a text of that width or more stays as it is. -/
def padTo (width : Nat) (t : Text) : Text := t ++ List.replicate (width - t.length) ' '

/-- What follows a given beginning, for a text that has it. -/
def after? (beginning t : Text) : Option Text :=
  if beginning.isPrefixOf t then some (t.drop beginning.length) else none

end MemberOutline.Text
