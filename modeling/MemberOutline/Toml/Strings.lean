import MemberOutline.Text.Basic

/-!
# Strings and blanks in TOML

Four kinds of strings: with escapes or without, on one line or on several. Every reader takes a text
after its opening part and gives what it read with what follows. The first argument of a reader that
goes through a string bounds its length.
-/

namespace MemberOutline.Toml

/-- The text without the spaces and tabs at its start. -/
def skipSpaces (t : Text) : Text := t.dropWhile fun c => c = ' ' || c = '\t'

/-- What follows a line break, if the text starts with one. -/
def afterLineBreak? : Text → Option Text
  | '\n' :: rest => some rest
  | '\r' :: '\n' :: rest => some rest
  | _ => none

/-- A character that may stand in a comment or a string: all but the controls other than tab. -/
def isTextChar (c : Char) : Bool := c = '\t' || (0x20 ≤ c.toNat && c.toNat ≠ 0x7F)

/-- The text without the spaces, line breaks and comments at its start. It stops at a character that
may not end a comment. -/
def skipBlankLines (inComment : Bool) : Text → Text
  | [] => []
  | c :: rest =>
    if inComment && isTextChar c then skipBlankLines true rest
    else if c = '\n' then skipBlankLines false rest
    else if c = '\r' then
      match rest with
      | '\n' :: more => skipBlankLines false more
      | _ => c :: rest
    else if inComment then c :: rest
    else if c = ' ' || c = '\t' then skipBlankLines false rest
    else if c = '#' then skipBlankLines true rest
    else c :: rest

/-- What follows the end of a line, after spaces and a comment. -/
def afterLineEnd? (t : Text) : Option Text :=
  let t := skipSpaces t
  let t := if t.head? = some '#' then t.dropWhile isTextChar else t
  if t = [] then some [] else afterLineBreak? t

/-- Adds characters to the string read after them. -/
def addChars (cs : Text) (read : Option (Text × Text)) : Option (Text × Text) :=
  read.map fun (s, rest) => (cs ++ s, rest)

/-- The character whose code point the first `count` characters give in hexadecimal. -/
def codePoint? (count : Nat) (t : Text) : Option (Char × Text) := do
  let digits := t.take count
  if digits.length < count then none
  let n ← Text.hexValue? digits
  if n < 0xD800 ∨ (0xE000 ≤ n ∧ n < 0x110000) then some (Char.ofNat n, t.drop count) else none

/-- The character that an escape stands for, after its backslash. -/
def readEscape : Text → Option (Char × Text)
  | [] => none
  | c :: rest =>
    if c = 'b' then some ('\x08', rest)
    else if c = 't' then some ('\t', rest)
    else if c = 'n' then some ('\n', rest)
    else if c = 'f' then some ('\x0c', rest)
    else if c = 'r' then some ('\r', rest)
    else if c = '\x22' then some ('\x22', rest)
    else if c = '\\' then some ('\\', rest)
    else if c = 'u' then codePoint? 4 rest
    else if c = 'U' then codePoint? 8 rest
    else none

/-- A string on one line, after its opening quote. -/
def readLineString (quote : Char) (escapes : Bool) : Nat → Text → Option (Text × Text)
  | 0, _ => none
  | _, [] => none
  | bound + 1, c :: rest =>
    if c = quote then some ([], rest)
    else if escapes && c = '\\' then
      match readEscape rest with
      | some (x, more) => addChars [x] (readLineString quote escapes bound more)
      | none => none
    else if isTextChar c then addChars [c] (readLineString quote escapes bound rest)
    else none

/-- The text after a backslash that ends a line: the break and all blanks after it are skipped. -/
def afterContinuation? (t : Text) : Option Text :=
  (afterLineBreak? (skipSpaces t)).map skipBreaks
where
  /-- The text without the spaces, tabs and line breaks at its start. -/
  skipBreaks : Text → Text
    | [] => []
    | c :: rest =>
      if c = ' ' || c = '\t' || c = '\n' then skipBreaks rest
      else if c = '\r' then
        match rest with
        | '\n' :: more => skipBreaks more
        | _ => c :: rest
      else c :: rest

/-- A string on several lines, after its opening quotes. Three quotes close it; up to two before
them belong to it. -/
def readBlockString (quote : Char) (escapes : Bool) : Nat → Text → Option (Text × Text)
  | 0, _ => none
  | _, [] => none
  | bound + 1, c :: rest =>
    if c = quote then
      let count := ((c :: rest).takeWhile (· = quote)).length
      if count < 3 then
        addChars (List.replicate count quote)
          (readBlockString quote escapes bound ((c :: rest).drop count))
      else
        let extra := min (count - 3) 2
        some (List.replicate extra quote, (c :: rest).drop (extra + 3))
    else if escapes && c = '\\' then
      match afterContinuation? rest with
      | some more => readBlockString quote escapes bound more
      | none =>
        match readEscape rest with
        | some (x, more) => addChars [x] (readBlockString quote escapes bound more)
        | none => none
    else
      match afterLineBreak? (c :: rest) with
      | some more => addChars ['\n'] (readBlockString quote escapes bound more)
      | none =>
        if isTextChar c then addChars [c] (readBlockString quote escapes bound rest) else none

/-- A string with its quotes, if the text starts with one. -/
def readString (t : Text) : Option (Text × Text) :=
  match t with
  | c :: rest =>
    if c = '\x22' ∨ c = '\x27' then
      let escapes := c = '\x22'
      match rest with
      | d :: e :: more =>
        if d = c ∧ e = c then
          readBlockString c escapes (more.length + 1) ((afterLineBreak? more).getD more)
        else readLineString c escapes (rest.length + 1) rest
      | _ => readLineString c escapes (rest.length + 1) rest
    else none
  | [] => none

/-- A character of a key without quotes. -/
def isBareKeyChar (c : Char) : Bool := c.isAlphanum || c = '_' || c = '-'

/-- One part of a key. -/
def readKeyPart (t : Text) : Option (Text × Text) :=
  match t with
  | [] => none
  | c :: rest =>
    if c = '\x22' then readLineString c true (rest.length + 1) rest
    else if c = '\x27' then readLineString c false (rest.length + 1) rest
    else
      let part := t.takeWhile isBareKeyChar
      if part = [] then none else some (part, t.dropWhile isBareKeyChar)

/-- A key of at most `limit` parts with points between them, and the spaces around the parts. -/
def readKeyParts : Nat → Text → Option (List Text × Text)
  | 0, _ => none
  | limit + 1, t =>
    match readKeyPart (skipSpaces t) with
    | none => none
    | some (part, rest) =>
      match skipSpaces rest with
      | '.' :: more => (readKeyParts limit more).map fun (parts, rest) => (part :: parts, rest)
      | rest => some ([part], rest)

/-- How deep keys and values may nest. -/
def nestingLimit : Nat := 79

/-- A key as the path to its table and its last part. -/
def readKey (t : Text) : Option (List Text × Text × Text) := do
  let (parts, rest) ← readKeyParts nestingLimit t
  let key ← parts.getLast?
  return (parts.dropLast, key, rest)

end MemberOutline.Toml
