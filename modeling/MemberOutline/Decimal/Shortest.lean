/-!
# The shortest decimal of a binary number

A binary floating-point number stands for all reals that round to it. `shortest` finds the decimal
with the fewest digits among them, and of those the one nearest to the number. For one digit, two
digits and so on it tests the two neighbours of the number on the grid of that many digits, in exact
arithmetic, and the first grid with a neighbour among those reals gives the answer; seventeen digits
are always enough for a number of 53 bits. Two neighbours can be equally near, so the choice between
them is a parameter.
-/

namespace MemberOutline

/-- A decimal `digits * 10 ^ exponent`. -/
structure Decimal where
  digits : Nat
  exponent : Int
  deriving DecidableEq, Repr

namespace Decimal

/-- Which of two equally near decimals to take. -/
inductive Tie where
  /-- The one with the even last digit. -/
  | toEven
  /-- The greater one. -/
  | up
  deriving DecidableEq, Repr

/-- A positive number `value / scale` with the ends of the interval of reals that round to it, on
the same scale. -/
structure Interval where
  low : Nat
  value : Nat
  high : Nat
  scale : Nat
  /-- Whether the ends belong to it. -/
  closed : Bool
  deriving Repr

/-- The interval of `significand * 2 ^ exponent`. The gap below is half the gap above at the first
number of a binade. The scale is a quarter of the last place, so that the ends are whole. -/
def Interval.ofBinary (significand : Nat) (exponent : Int) (firstOfBinade : Bool) : Interval :=
  let up := 1 <<< (exponent - 2).toNat
  { low := (4 * significand - if firstOfBinade then 1 else 2) * up
    value := 4 * significand * up
    high := (4 * significand + 2) * up
    scale := 1 <<< (2 - exponent).toNat
    closed := significand % 2 = 0 }

/-- The least number from `k` on, within `bound` steps, whose power of ten brings the value up to
the scale. -/
def leadingPlaces (value scale : Nat) : Nat → Nat → Nat
  | 0, k => k
  | bound + 1, k =>
    if value * Nat.pow 10 k ≥ scale then k else leadingPlaces value scale bound (k + 1)

/-- The `k` with `10 ^ (k - 1) ≤ value / scale < 10 ^ k`. -/
def magnitude (value scale : Nat) : Int :=
  if value ≥ scale then (toString (value / scale)).length
  else 1 - (leadingPlaces value scale 400 1 : Int)

/-- Whether the upper of two neighbours is to be taken, from the lower one, the remainder above it
and the distance of the two. -/
def Tie.takesUpper (tie : Tie) (below remainder unit : Nat) : Bool :=
  match compare (2 * remainder) unit, tie with
  | .lt, _ => false
  | .gt, _ => true
  | .eq, .toEven => below % 2 = 1
  | .eq, .up => true

/-- The neighbour with this count of digits that lies in the interval, the nearer of two. -/
def Interval.neighbour? (i : Interval) (tie : Tie) (top : Int) (count : Nat) : Option Decimal :=
  let exponent := top - count
  let unit := i.scale * Nat.pow 10 exponent.toNat
  let factor := Nat.pow 10 (-exponent).toNat
  let within (n : Nat) : Bool :=
    if i.closed then i.low * factor ≤ n * unit && n * unit ≤ i.high * factor
    else i.low * factor < n * unit && n * unit < i.high * factor
  let below := i.value * factor / unit
  let remainder := i.value * factor - below * unit
  match within below, within (below + 1) with
  | true, true => some ⟨if tie.takesUpper below remainder unit then below + 1 else below, exponent⟩
  | true, false => some ⟨below, exponent⟩
  | false, true => some ⟨below + 1, exponent⟩
  | false, false => none

/-- The first neighbour found with `count` digits, one more, and so on for `bound` counts; without
one, the number's whole part. -/
def Interval.search (i : Interval) (tie : Tie) (top : Int) : Nat → Nat → Decimal
  | 0, _ => ⟨i.value / i.scale, 0⟩
  | bound + 1, count =>
    match i.neighbour? tie top count with
    | some d => d
    | none => i.search tie top bound (count + 1)

/-- The shortest decimal of a positive number. -/
def Interval.shortest (i : Interval) (tie : Tie) : Decimal :=
  i.search tie (magnitude i.value i.scale) 17 1

end Decimal

end MemberOutline
