import MemberOutline.Json.Basic

/-!
# The numbers that numerals stand for

A numeral without point and exponent is an integer if it fits 64 bits, with the sign or without;
minus zero is none. Every other numeral is a double: the digits that fit 64 bits are read as an
integer, rounded to a double, and scaled by one power of ten, rounded again.
-/

namespace MemberOutline.Json

/-- A number as it is understood. -/
inductive Number where
  | integer (n : Int)
  | double (x : Float)
  deriving Repr

/-- The digits at the front that fit 64 bits after the given number, read on to it, and the count of
the digits left over. -/
def readWord (n : Nat) : Text → Nat × Nat
  | [] => (n, 0)
  | c :: rest =>
    let next := 10 * n + (c.toNat - '0'.toNat)
    if next < 1 <<< 64 then readWord next rest else (n, rest.length + 1)

/-- A double scaled by a power of ten in at most `bound + 1` divisions. -/
def scaleByTen (bound : Nat) (x : Float) (exponent : Int) : Float :=
  match exponent with
  | .ofNat e => if e ≤ 308 then x * Float.ofScientific 1 false e else x * (1.0 / 0.0)
  | .negSucc e =>
    if e < 308 then x / Float.ofScientific 1 false (e + 1)
    else
      match bound with
      | 0 => 0.0
      | bound + 1 => scaleByTen bound (x / Float.ofScientific 1 false 308) (exponent + 308)

/-- The double nearest to the digits of a numeral, as far as one rounding of the digits and one of
the scaled number go. -/
def Numeral.toFloat (n : Numeral) : Float :=
  let (word, extra) := readWord 0 n.whole
  let (word, places) := match n.fraction with
    | some digits =>
      let (word, unread) := readWord word digits
      (word, digits.length - unread)
    | none => (word, 0)
  let exponent : Int := match n.exponent with
    | some (true, digits) => -(Text.valueOf 10 digits : Int)
    | some (false, digits) => Text.valueOf 10 digits
    | none => 0
  let magnitude :=
    if word = 0 then 0.0 else scaleByTen 3 (Float.ofNat word) (exponent + extra - places)
  if n.negative then -magnitude else magnitude

/-- The number that a numeral stands for. -/
def Numeral.value (n : Numeral) : Number :=
  match n.fraction, n.exponent with
  | none, none =>
    let m := Text.valueOf 10 n.whole
    if n.negative then
      if m ≠ 0 ∧ m ≤ 1 <<< 63 then .integer (-m) else .double n.toFloat
    else if m < 1 <<< 64 then .integer m
    else .double n.toFloat
  | _, _ => .double n.toFloat

end MemberOutline.Json
