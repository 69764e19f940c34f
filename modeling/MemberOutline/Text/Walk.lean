import MemberOutline.Text.Basic

/-!
# Walking through a text

A walk goes through a text from left to right. At each stop it looks at one character, with those
before it and those after it, gives an answer and goes on with a new state; the answer says how many
characters it covers, and the next stop is after these. `walk` gives the state at the end, `stops`
all that happened on the way.
-/

namespace MemberOutline.Text

/-- What a walk does at a character: from the state, the characters before, the nearest first, the
character and those after it to an answer and the state to go on with. -/
abbrev Stride (State Answer : Type) := State → Text → Char → Text → Answer × State

/-- A place where a walk took a step. -/
structure Stop (State Answer : Type) where
  /-- The number of characters before the one looked at. -/
  position : Nat
  /-- What the step answered. -/
  answer : Answer
  /-- The state after it. -/
  state : State
  deriving DecidableEq, Repr

variable {State Answer : Type}

/-- The state at the end of a text whose first `covered` characters belong to the step before. -/
def walk (width : Answer → Nat) (stride : Stride State Answer) (state : State) (covered : Nat)
    (seen : Text) : Text → State
  | [] => state
  | c :: rest =>
    match covered with
    | covered + 1 => walk width stride state covered (c :: seen) rest
    | 0 =>
      let (answer, next) := stride state seen c rest
      walk width stride next (width answer - 1) (c :: seen) rest

/-- The stops in a text from a position on whose first `covered` characters belong to the step
before. -/
def stops (width : Answer → Nat) (stride : Stride State Answer) (state : State)
    (position covered : Nat) (seen : Text) : Text → List (Stop State Answer)
  | [] => []
  | c :: rest =>
    match covered with
    | covered + 1 => stops width stride state (position + 1) covered (c :: seen) rest
    | 0 =>
      let (answer, next) := stride state seen c rest
      ⟨position, answer, next⟩ ::
        stops width stride next (position + 1) (width answer - 1) (c :: seen) rest

end MemberOutline.Text
