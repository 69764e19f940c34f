import MemberOutline.Text.Basic
import MemberOutline.Text.Alphanumeric
import MemberOutline.Text.WordCharacter
import MemberOutline.Text.Glyphless

/-!
# Classes of characters, and quoted texts

The four classes that the outline of a declaration depends on: blanks, characters of an identifier,
characters of a word, and characters that a quoted message has to spell out. ASCII characters are
decided by comparison and all others by a table, so that a class of an ASCII text computes at once.

A text is shown inside a message between double quotes, with a backslash before a quote or a
backslash, the usual short forms of four controls, and the code point of every other character that
does not show by itself.
-/

namespace MemberOutline.Text

/-- Unicode white space: the ASCII blanks, next line, no-break space and the space separators. -/
def isBlank (c : Char) : Bool :=
  let n := c.toNat
  (9 ≤ n && n ≤ 13) || n == 0x20 || n == 0x85 || n == 0xA0 || n == 0x1680 ||
    (0x2000 ≤ n && n ≤ 0x200A) || n == 0x2028 || n == 0x2029 || n == 0x202F || n == 0x205F ||
    n == 0x3000

/-- A character of an identifier: a letter or number of any script, an underscore or a dollar. -/
def isIdentifierChar (c : Char) : Bool :=
  if c.toNat < 128 then c.isAlphanum || c == '_' || c == '$'
  else alphanumericRanges.contains c.toNat

/-- A character of a word: a letter, mark or decimal digit of any script, or a connector such as the
underscore. The dollar is none. -/
def isWordChar (c : Char) : Bool :=
  if c.toNat < 128 then c.isAlphanum || c == '_'
  else wordRanges.contains c.toNat

/-- A character that does not show by itself: a control, a separator other than the space, a filler
or a mark on the character before it. -/
def isGlyphless (c : Char) : Bool :=
  if c.toNat < 128 then c.toNat < 32 || c.toNat == 127
  else glyphlessRanges.contains c.toNat

/-- One character as it stands inside a quoted text. -/
def quotedChar (c : Char) : Text :=
  if c = '\x00' then "\\0".toList
  else if c = '\t' then "\\t".toList
  else if c = '\r' then "\\r".toList
  else if c = '\n' then "\\n".toList
  else if c = '\\' then "\\\\".toList
  else if c = '\x22' then "\\\"".toList
  else if isGlyphless c then "\\u\x7b".toList ++ Nat.toDigits 16 c.toNat ++ "\x7d".toList
  else [c]

/-- The text between double quotes. -/
def quoted (t : Text) : Text := '\x22' :: t.flatMap quotedChar ++ ['\x22']

end MemberOutline.Text
