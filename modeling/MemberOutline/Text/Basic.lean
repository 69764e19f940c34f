/-!
# Texts

A text is a list of Unicode scalar values, so that positions and lengths count characters. Numbers
are written in a text with the digits of a base. A large set of characters is a table of inclusive
ranges in increasing order.
-/

namespace MemberOutline

/-- A text, character by character. -/
abbrev Text := List Char

namespace Text

/-- A set of code points as inclusive ranges in increasing order. -/
abbrev Ranges := List (Nat × Nat)

/-- Membership of a code point; the search ends at the first range that starts above it. -/
def Ranges.contains : Ranges → Nat → Bool
  | [], _ => false
  | (first, last) :: more, n =>
    if n < first then false else n ≤ last || Ranges.contains more n

/-- The value of a hexadecimal digit, in either case. -/
def digitValue? (c : Char) : Option Nat :=
  if '0' ≤ c ∧ c ≤ '9' then some (c.toNat - '0'.toNat)
  else if 'a' ≤ c ∧ c ≤ 'f' then some (c.toNat - 'a'.toNat + 10)
  else if 'A' ≤ c ∧ c ≤ 'F' then some (c.toNat - 'A'.toNat + 10)
  else none

/-- The number that digits of a base write. -/
def valueOf (base : Nat) (digits : Text) : Nat :=
  digits.foldl (fun n c => base * n + (digitValue? c).getD 0) 0

/-- The number that hexadecimal digits write, if they all are such. -/
def hexValue? (digits : Text) : Option Nat :=
  if digits.all fun c => (digitValue? c).isSome then some (valueOf 16 digits) else none

/-- The lower-case digit of a number below sixteen. -/
def hexDigit (n : Nat) : Char := Char.ofNat (if n < 10 then n + '0'.toNat else n - 10 + 'a'.toNat)

end Text

end MemberOutline
