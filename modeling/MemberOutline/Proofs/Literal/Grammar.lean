import MemberOutline.Literal.Context
import Mathlib.Data.List.Basic

/-!
# The grammar of literals

What a literal is, said without the contexts that a walk keeps: comments, block comments with block
comments in them, and strings whose interpolations hold code with literals of its own. `Stands`
derives the four forms of text that take part, each with the character before it and the text after
it, since what one character may be depends on its neighbours.
-/

namespace MemberOutline.Literal

open Text (isIdentifierChar)

/-- The forms of text that literals are made of. -/
inductive Form where
  /-- A whole literal. -/
  | literal
  /-- What stands between the ends of a block comment. -/
  | comment
  /-- What stands between the delimiters of a string. -/
  | content (delimiter : Delimiter) (raw : Bool)
  /-- What stands between the braces of an interpolation. -/
  | code
  deriving DecidableEq, Repr

/-- A character of a block comment that begins neither its end nor a comment in it. -/
def PlainInComment (c : Char) (after : Text) : Prop :=
  ¬ ['/', '*'] <+: c :: after ∧ ¬ ['*', '/'] <+: c :: after

/-- A character of a string that stands for itself: it begins neither the closing delimiter nor, in
a string that is not raw, an escape or an interpolation, and it ends no line that the string may not
leave. -/
def PlainInString (d : Delimiter) (raw : Bool) (c : Char) (after : Text) : Prop :=
  ¬ d.text <+: c :: after ∧ (raw = false → c ≠ '\\' ∧ ¬ ['$', '{'] <+: c :: after) ∧
    (d.triple = false → c ≠ '\n')

/-- A character of code: no quote, and not the beginning of a comment or of a raw string. -/
def PlainInCode (before : Option Char) (c : Char) (after : Text) : Prop :=
  (∀ q : Quote, c ≠ q.char) ∧ ¬ ['/', '/'] <+: c :: after ∧ ¬ ['/', '*'] <+: c :: after ∧
    ((c = 'r' ∨ c = 'R') → before.any isIdentifierChar = false →
      ∀ q : Quote, after.head? ≠ some q.char)

/-- The closing quote of an empty string may not be taken for the second of three. -/
def NotThird (d : Delimiter) (body after : Text) : Prop :=
  body = [] → d.triple = false → after.head? ≠ some d.quote.char

/-- A text is of a form, with a character before it and a text after it. -/
inductive Stands : Form → Option Char → Text → Text → Prop
  /-- A comment goes up to the end of its line and includes it. -/
  | line {before : Option Char} {body after : Text} (within : '\n' ∉ body) :
      Stands .literal before ('/' :: '/' :: (body ++ ['\n'])) after
  /-- A block comment. -/
  | block {before : Option Char} {body after : Text}
      (inside : Stands .comment (some '*') body ('*' :: '/' :: after)) :
      Stands .literal before ('/' :: '*' :: (body ++ ['*', '/'])) after
  /-- A string. -/
  | string {before : Option Char} {d : Delimiter} {body after : Text}
      (inside : Stands (.content d false) (some d.quote.char) body (d.text ++ after))
      (empty : NotThird d body after) :
      Stands .literal before (d.text ++ (body ++ d.text)) after
  /-- A raw string. -/
  | rawString {before : Option Char} {letter : Char} {d : Delimiter} {body after : Text}
      (hletter : letter = 'r' ∨ letter = 'R') (alone : before.any isIdentifierChar = false)
      (inside : Stands (.content d true) (some d.quote.char) body (d.text ++ after))
      (empty : NotThird d body after) :
      Stands .literal before (letter :: (d.text ++ (body ++ d.text))) after
  /-- Nothing more stands in a block comment. -/
  | commentEnd {before : Option Char} {after : Text} : Stands .comment before [] after
  /-- A plain character of a block comment. -/
  | commentChar {before : Option Char} {c : Char} {body after : Text}
      (plain : PlainInComment c (body ++ after)) (more : Stands .comment (some c) body after) :
      Stands .comment before (c :: body) after
  /-- A block comment in a block comment. -/
  | commentNested {before : Option Char} {inner body after : Text}
      (inside : Stands .comment (some '*') inner ('*' :: '/' :: (body ++ after)))
      (more : Stands .comment (some '/') body after) :
      Stands .comment before ('/' :: '*' :: (inner ++ '*' :: '/' :: body)) after
  /-- Nothing more stands in a string. -/
  | contentEnd {d : Delimiter} {raw : Bool} {before : Option Char} {after : Text} :
      Stands (.content d raw) before [] after
  /-- A plain character of a string. -/
  | contentChar {d : Delimiter} {raw : Bool} {before : Option Char} {c : Char} {body after : Text}
      (plain : PlainInString d raw c (body ++ after))
      (more : Stands (.content d raw) (some c) body after) :
      Stands (.content d raw) before (c :: body) after
  /-- A backslash with the character that it escapes. -/
  | escape {d : Delimiter} {before : Option Char} {c : Char} {body after : Text}
      (more : Stands (.content d false) (some c) body after) :
      Stands (.content d false) before ('\\' :: c :: body) after
  /-- An interpolation. -/
  | interpolation {d : Delimiter} {before : Option Char} {inner body after : Text}
      (inside : Stands .code (some '{') inner ('}' :: (body ++ after)))
      (more : Stands (.content d false) (some '}') body after) :
      Stands (.content d false) before ('$' :: '{' :: (inner ++ '}' :: body)) after
  /-- Nothing more stands in an interpolation or between braces. -/
  | codeEnd {before : Option Char} {after : Text} : Stands .code before [] after
  /-- A plain character of code, other than a brace. -/
  | codeChar {before : Option Char} {c : Char} {body after : Text}
      (notOpen : c ≠ '{') (notClose : c ≠ '}') (plain : PlainInCode before c (body ++ after))
      (more : Stands .code (some c) body after) :
      Stands .code before (c :: body) after
  /-- A pair of braces in code. -/
  | braces {before : Option Char} {inner body after : Text}
      (inside : Stands .code (some '{') inner ('}' :: (body ++ after)))
      (more : Stands .code (some '}') body after) :
      Stands .code before ('{' :: (inner ++ '}' :: body)) after
  /-- A literal in code. -/
  | nested {before : Option Char} {literal body after : Text}
      (inside : Stands .literal before literal (body ++ after))
      (more : Stands .code literal.getLast? body after) :
      Stands .code before (literal ++ body) after

end MemberOutline.Literal
