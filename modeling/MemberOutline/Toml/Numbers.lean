import MemberOutline.Toml.Basic
import MemberOutline.Toml.Strings
import MemberOutline.Text.Words

/-!
# Numbers and dates in TOML

An integer fits 64 bits. A float is the double nearest to its decimal, and one too large is refused
unless it is negative. Between two digits an underscore may stand. What starts with a date or a time
is one.
-/

namespace MemberOutline.Toml

/-- The digits at the front of a text without the underscores between them, and what follows. -/
def digitRun (isDigit : Char → Bool) : Text → Text × Text
  | [] => ([], [])
  | c :: rest =>
    if isDigit c then
      let (digits, more) := digitRun isDigit rest
      (c :: digits, more)
    else if c = '_' && rest.head?.any isDigit then digitRun isDigit rest
    else ([], c :: rest)

/-- At least one digit, with underscores between digits only. -/
def readDigits (isDigit : Char → Bool) (t : Text) : Option (Text × Text) :=
  if t.head?.any isDigit then some (digitRun isDigit t) else none

/-- The sign at the front of a text: whether it is a minus, and what follows. -/
def readSign : Text → Bool × Text
  | '-' :: rest => (true, rest)
  | '+' :: rest => (false, rest)
  | t => (false, t)

/-- The digits of a decimal integer: a zero stands alone. -/
def readWhole (t : Text) : Option (Text × Text) :=
  match t with
  | '0' :: rest => some (['0'], rest)
  | _ => readDigits Char.isDigit t

/-- A decimal integer. -/
def readDecimal (t : Text) : Option (Node × Text) := do
  let (negative, t) := readSign t
  let (digits, rest) ← readWhole t
  let n := Text.valueOf 10 digits
  if negative then
    if n ≤ 1 <<< 63 then some (.integer (-n), rest) else none
  else if n < 1 <<< 63 then some (.integer n, rest)
  else none

/-- An integer with these digits after the two characters that name its base. -/
def readBased (base : Nat) (isDigit : Char → Bool) (t : Text) : Option (Node × Text) := do
  let (digits, rest) ← readDigits isDigit t
  let n := Text.valueOf base digits
  if n < 1 <<< 63 then some (.integer n, rest) else none

/-- An integer. -/
def readInteger (t : Text) : Option (Node × Text) :=
  match t with
  | '0' :: 'x' :: rest => readBased 16 (fun c => (Text.digitValue? c).isSome) rest
  | '0' :: 'o' :: rest => readBased 8 (fun c => '0' ≤ c && c ≤ '7') rest
  | '0' :: 'b' :: rest => readBased 2 (fun c => c = '0' || c = '1') rest
  | _ => readDecimal t

/-- The double nearest to `digits * 10 ^ exponent`. -/
def nearestDouble (digits : Text) (exponent : Int) : Float :=
  let n := Text.valueOf 10 digits
  let top := exponent + digits.length
  if n = 0 ∨ top < -400 then 0.0
  else if (exponent + (toString n).length : Int) > 400 then 1.0 / 0.0
  else
    match exponent with
    | .ofNat e => Float.ofScientific n false e
    | .negSucc e => Float.ofScientific n true (e + 1)

/-- The exponent of a float after its letter. -/
def readExponent (t : Text) : Option (Int × Text) := do
  let (negative, t) := readSign t
  let (digits, rest) ← readDigits Char.isDigit t
  let n := Text.valueOf 10 digits
  return (if negative then -n else n, rest)

/-- Whether a text starts with the letter of an exponent. -/
def startsExponent (t : Text) : Bool := t.head? = some 'e' || t.head? = some 'E'

/-- A float with a point or an exponent. -/
def readDecimalFloat (t : Text) : Option (Node × Text) := do
  let (negative, t) := readSign t
  let (whole, t) ← readWhole t
  let (fraction, t) ← match t with
    | '.' :: rest => readDigits Char.isDigit rest
    | _ => if startsExponent t then some ([], t) else none
  let (exponent, t) ← if startsExponent t then readExponent (t.drop 1) else some (0, t)
  let x := nearestDouble (whole ++ fraction) (exponent - fraction.length)
  if negative then some (.float (-x), t)
  else if x.isInf then none
  else some (.float x, t)

/-- One of the floats that are no number or infinite. -/
def readSpecialFloat (t : Text) : Option (Node × Text) :=
  let (negative, t) := readSign t
  let sign (x : Float) : Float := if negative then -x else x
  match Text.after? "inf".toList t with
  | some rest => some (.float (sign (1.0 / 0.0)), rest)
  | none =>
    (Text.after? "nan".toList t).map fun rest => (.float (sign (0.0 / 0.0)), rest)

/-- The number that the first `count` digits of a text write. -/
def readPlaces (count : Nat) (t : Text) : Option (Nat × Text) :=
  let digits := t.take count
  if digits.length = count ∧ digits.all Char.isDigit then
    some (Text.valueOf 10 digits, t.drop count)
  else none

/-- What follows a character that the text has to start with. -/
def expect (c : Char) (t : Text) : Option Text :=
  if t.head? = some c then some (t.drop 1) else none

/-- The number of days in a month. -/
def daysIn (year month : Nat) : Nat :=
  if month = 2 then
    if year % 4 = 0 ∧ (year % 100 ≠ 0 ∨ year % 400 = 0) then 29 else 28
  else if month = 4 ∨ month = 6 ∨ month = 9 ∨ month = 11 then 30
  else 31

/-- What follows a date. -/
def afterDate? (t : Text) : Option Text := do
  let (year, t) ← readPlaces 4 t
  let t ← expect '-' t
  let (month, t) ← readPlaces 2 t
  let t ← expect '-' t
  let (day, t) ← readPlaces 2 t
  if 1 ≤ month ∧ month ≤ 12 ∧ 1 ≤ day ∧ day ≤ daysIn year month then some t else none

/-- What follows a time of day. -/
def afterTime? (t : Text) : Option Text := do
  let (hour, t) ← readPlaces 2 t
  let t ← expect ':' t
  let (minute, t) ← readPlaces 2 t
  let t ← expect ':' t
  let (second, t) ← readPlaces 2 t
  if hour > 23 ∨ minute > 59 ∨ second > 60 then none
  match t with
  | '.' :: rest =>
    let fraction := rest.takeWhile Char.isDigit
    if fraction = [] then some t else some (rest.drop fraction.length)
  | _ => some t

/-- What follows the offset from universal time. -/
def afterOffset? (t : Text) : Option Text :=
  match t with
  | 'Z' :: rest => some rest
  | 'z' :: rest => some rest
  | c :: rest =>
    if c = '+' ∨ c = '-' then do
      let (hour, t) ← readPlaces 2 rest
      let t ← expect ':' t
      let (minute, t) ← readPlaces 2 t
      if hour > 23 ∨ minute > 59 then none else some t
    else none
  | [] => none

/-- What follows a date, a time or both. -/
def afterDatetime? (t : Text) : Option Text :=
  match afterDate? t with
  | none => afterTime? t
  | some rest =>
    let withTime :=
      match rest with
      | c :: more => if c = 'T' ∨ c = 't' ∨ c = ' ' then afterTime? more else none
      | [] => none
    match withTime with
    | none => some rest
    | some rest => some ((afterOffset? rest).getD rest)

/-- A number, a date or a time. -/
def readNumber (t : Text) : Option (Node × Text) :=
  match afterDatetime? t with
  | some rest => some (.datetime, rest)
  | none => ((readDecimalFloat t).or (readSpecialFloat t)).or (readInteger t)

end MemberOutline.Toml
