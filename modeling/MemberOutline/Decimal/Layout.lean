import MemberOutline.Decimal.Shortest

/-!
# How a double is written

A double is written as its shortest decimal, with its digits around a decimal point or, when it is
very large or very small, as one digit, a fraction and a signed power of ten. A `Layout` says which
of two equally near decimals is taken and which powers of ten need no exponent.
-/

namespace MemberOutline

namespace Decimal

/-- How doubles are written. -/
structure Layout where
  /-- Which of two equally near decimals is written. -/
  tie : Tie
  /-- The least and the greatest power of ten of a leading digit that is written without an
  exponent; without them no number has one. -/
  plainPowers : Option (Int × Int)
  deriving DecidableEq, Repr

/-- Whether a number whose leading digit stands for this power of ten is written without an
exponent. -/
def Layout.isPlain (layout : Layout) (power : Int) : Bool :=
  layout.plainPowers.all fun (least, greatest) => least ≤ power && power ≤ greatest

/-- Digits without the zeros at their end. -/
def withoutZeros (digits : List Char) : List Char := (digits.reverse.dropWhile (· = '0')).reverse

/-- The power of ten that the leading digit stands for. -/
def leadingPower (d : Decimal) : Int := d.exponent + (toString d.digits).length - 1

/-- A decimal written without an exponent, with at least one digit on each side of the point. -/
def positional (d : Decimal) : String :=
  let digits := (toString d.digits).toList
  match d.exponent with
  | .ofNat zeros => String.ofList (digits ++ List.replicate zeros '0' ++ ['.', '0'])
  | .negSucc n =>
    let places := n + 1
    let padded := List.replicate (places + 1 - digits.length) '0' ++ digits
    let whole := padded.take (padded.length - places)
    let fraction := withoutZeros (padded.drop (padded.length - places))
    String.ofList (whole ++ '.' :: if fraction = [] then ['0'] else fraction)

/-- A decimal written with an exponent: the leading digit, the others behind a point if there are
any, and the signed power of ten of the leading one. -/
def withExponent (d : Decimal) : String :=
  let power := d.leadingPower
  let sign := if power < 0 then "e-" else "e+"
  let digits :=
    match withoutZeros (toString d.digits).toList with
    | leading :: c :: more => leading :: '.' :: c :: more
    | digits => digits
  String.ofList digits ++ sign ++ toString power.natAbs

/-- A decimal written in a layout. -/
def Layout.decimal (layout : Layout) (d : Decimal) : String :=
  if layout.isPlain d.leadingPower then d.positional else d.withExponent

/-- A double written in a layout. -/
def Layout.float (layout : Layout) (x : Float) : String :=
  let bits := x.toBits.toNat
  let sign := if bits ≥ 1 <<< 63 then "-" else ""
  let biased := bits / (1 <<< 52) % 2048
  let fraction := bits % (1 <<< 52)
  if biased = 2047 then
    if fraction = 0 then sign ++ "inf" else "NaN"
  else
    let significand := if biased = 0 then fraction else fraction + (1 <<< 52)
    if significand = 0 then sign ++ "0.0"
    else
      let exponent : Int := (max biased 1 : Nat) - 1075
      let interval := Interval.ofBinary significand exponent (fraction = 0 && biased > 1)
      sign ++ layout.decimal (interval.shortest layout.tie)

end Decimal

end MemberOutline
