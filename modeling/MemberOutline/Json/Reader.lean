import MemberOutline.Json.Basic

/-!
# Reading JSON

A reader takes a value from the front of a text and gives what follows it. Strings may hold any
character from the space on, the short escapes, and code units in hexadecimal, of which a pair of
surrogates makes one character and a lone surrogate none. Values nest as deep as the text is long.
-/

namespace MemberOutline.Json

/-- The text without the white space at its start. -/
def skipBlanks (t : Text) : Text :=
  t.dropWhile fun c => c = ' ' || c = '\t' || c = '\n' || c = '\r'

/-- The character that a backslash and this one stand for. -/
def shortEscape? (c : Char) : Option Char :=
  if c = '\x22' then some '\x22'
  else if c = '\\' then some '\\'
  else if c = '/' then some '/'
  else if c = 'b' then some '\x08'
  else if c = 'f' then some '\x0c'
  else if c = 'n' then some '\n'
  else if c = 'r' then some '\r'
  else if c = 't' then some '\t'
  else none

/-- Adds a character to the string read after it. -/
def addChar (c : Char) (read : Option (Text × Text)) : Option (Text × Text) :=
  read.map fun (s, rest) => (c :: s, rest)

/-- The rest of a string after its opening quote, and what follows its closing quote. -/
def readChars : Text → Option (Text × Text)
  | [] => none
  | c :: rest =>
    if c = '\x22' then some ([], rest)
    else if c = '\\' then
      match rest with
      | [] => none
      | e :: more =>
        if e = 'u' then
          match more with
          | h₁ :: h₂ :: h₃ :: h₄ :: after =>
            match Text.hexValue? [h₁, h₂, h₃, h₄] with
            | none => none
            | some high =>
              if 0xD800 ≤ high ∧ high < 0xDC00 then
                match after with
                | s :: u :: l₁ :: l₂ :: l₃ :: l₄ :: last =>
                  match Text.hexValue? [l₁, l₂, l₃, l₄] with
                  | none => none
                  | some low =>
                    if s = '\\' ∧ u = 'u' ∧ 0xDC00 ≤ low ∧ low < 0xE000 then
                      addChar (Char.ofNat (0x10000 + (high - 0xD800) * 0x400 + (low - 0xDC00)))
                        (readChars last)
                    else none
                | _ => none
              else if 0xDC00 ≤ high ∧ high < 0xE000 then none
              else addChar (Char.ofNat high) (readChars after)
          | _ => none
        else
          match shortEscape? e with
          | some x => addChar x (readChars more)
          | none => none
    else if c.toNat < 0x20 then none
    else addChar c (readChars rest)

/-- The digits at the front of a text, at least one, and what follows them. -/
def readDigits (t : Text) : Option (Text × Text) :=
  let digits := t.takeWhile Char.isDigit
  if digits = [] then none else some (digits, t.dropWhile Char.isDigit)

/-- The exponent at the front of a text, if there is one. -/
def readExponent (t : Text) : Option (Option (Bool × Text) × Text) :=
  match t with
  | c :: rest =>
    if c = 'e' ∨ c = 'E' then
      match rest with
      | '-' :: more => (readDigits more).map fun (ds, r) => (some (true, ds), r)
      | '+' :: more => (readDigits more).map fun (ds, r) => (some (false, ds), r)
      | _ => (readDigits rest).map fun (ds, r) => (some (false, ds), r)
    else some (none, t)
  | [] => some (none, [])

/-- The digits after a point at the front of a text, if there is one. -/
def readFraction (t : Text) : Option (Option Text × Text) :=
  match t with
  | '.' :: rest => (readDigits rest).map fun (ds, r) => (some ds, r)
  | _ => some (none, t)

/-- The number at the front of a text, after its sign if it has one. A zero before the point stands
alone. -/
def readUnsigned (negative : Bool) (t : Text) : Option (Numeral × Text) := do
  let (whole, t) ← readDigits t
  if whole.length > 1 ∧ whole.head? = some '0' then none
  let (fraction, t) ← readFraction t
  let (exponent, t) ← readExponent t
  return (⟨negative, whole, fraction, exponent⟩, t)

/-- The number at the front of a text. -/
def readNumber (t : Text) : Option (Numeral × Text) :=
  match t with
  | '-' :: rest => readUnsigned true rest
  | _ => readUnsigned false t

mutual

/-- The value at the front of a text, blanks before it passed over. The first argument bounds how
deep values nest and how many stand in a row. -/
def readValue : Nat → Text → Option (Json × Text)
  | 0, _ => none
  | bound + 1, t =>
    match skipBlanks t with
    | [] => none
    | c :: rest =>
      if c = '\x22' then (readChars rest).map fun (s, r) => (.string s, r)
      else if c = '[' then
        match skipBlanks rest with
        | ']' :: r => some (.array [], r)
        | _ => (readItems bound rest).map fun (items, r) => (.array items, r)
      else if c = '{' then
        match skipBlanks rest with
        | '}' :: r => some (.object [], r)
        | _ => (readMembers bound rest).map fun (members, r) => (.object members, r)
      else if c = 't' then
        if "rue".toList.isPrefixOf rest then some (.boolean true, rest.drop 3) else none
      else if c = 'f' then
        if "alse".toList.isPrefixOf rest then some (.boolean false, rest.drop 4) else none
      else if c = 'n' then
        if "ull".toList.isPrefixOf rest then some (.null, rest.drop 3) else none
      else (readNumber (c :: rest)).map fun (n, r) => (.number n, r)

/-- The items of an array up to its closing bracket. -/
def readItems : Nat → Text → Option (List Json × Text)
  | 0, _ => none
  | bound + 1, t =>
    match readValue bound t with
    | none => none
    | some (item, r) =>
      match skipBlanks r with
      | ',' :: r => (readItems bound r).map fun (items, r) => (item :: items, r)
      | ']' :: r => some ([item], r)
      | _ => none

/-- The members of an object up to its closing brace. -/
def readMembers : Nat → Text → Option (List (Text × Json) × Text)
  | 0, _ => none
  | bound + 1, t =>
    match skipBlanks t with
    | '\x22' :: t =>
      match readChars t with
      | none => none
      | some (key, r) =>
        match skipBlanks r with
        | ':' :: r =>
          match readValue bound r with
          | none => none
          | some (item, r) =>
            match skipBlanks r with
            | ',' :: r => (readMembers bound r).map fun (members, r) => ((key, item) :: members, r)
            | '}' :: r => some ([(key, item)], r)
            | _ => none
        | _ => none
    | _ => none

end

/-- The value that a text holds, with nothing but blanks around it. A value takes at least one
character and each level and each item one more step, so the bound is never met. -/
def read? (t : Text) : Option Json :=
  match readValue (2 * t.length + 2) t with
  | some (value, rest) => if skipBlanks rest = [] then some value else none
  | none => none

end MemberOutline.Json
