import MemberOutline.Literal.Step
import MemberOutline.Proofs.Text.Path
import Mathlib.Data.List.TakeDrop

/-!
# The code in a text

`codeView` keeps the characters of a text that are code, each in its place, and blanks out those
that belong to a literal. `codeView_eq_some_iff` ties it to the visits of a walk, and
`codeFrom_consumed` and `codeFrom_code` say what one step adds to it.
-/

namespace MemberOutline.Literal

/-- The code characters of a text whose first `covered` characters belong to the step before, each
in its place; a character of a literal leaves its place empty. -/
def codeFrom (stack : Stack) (covered : Nat) (seen : Text) : Text → List (Option Char)
  | [] => []
  | c :: rest =>
    match covered with
    | covered + 1 => none :: codeFrom stack covered (c :: seen) rest
    | 0 =>
      match step stack seen.head? c rest with
      | (.code, next) => some c :: codeFrom next 0 (c :: seen) rest
      | (.consumed width, next) => none :: codeFrom next (width - 1) (c :: seen) rest

/-- The code characters of a text, each in its place. -/
def codeView (t : Text) : List (Option Char) := codeFrom [] 0 [] t

variable {stack next : Stack} {seen rest : Text} {c d : Char}

/-- The characters that a step covers leave their places empty. -/
theorem codeFrom_covered (stack : Stack) (seen more after : Text) :
    codeFrom stack more.length seen (more ++ after) =
      List.replicate more.length none ++ codeFrom stack 0 (more.reverse ++ seen) after := by
  induction more generalizing seen with
  | nil => rfl
  | cons c more ih =>
    rw [List.cons_append, List.length_cons, codeFrom, ih]
    simp [List.replicate_succ]

/-- Every place of a text is empty when a step covers all of its characters, or more than there
are. -/
theorem codeFrom_beyond (stack : Stack) (k : Nat) (seen t : Text) (h : t.length ≤ k) :
    codeFrom stack k seen t = List.replicate t.length none := by
  induction t generalizing k seen with
  | nil => rfl
  | cons c rest ih =>
    cases k with
    | zero => simp at h
    | succ k =>
      rw [codeFrom, ih k _ (Nat.le_of_succ_le_succ h), List.length_cons, List.replicate_succ]

/-- A code character stands in its place. -/
theorem codeFrom_code (h : step stack seen.head? c rest = (.code, next)) :
    codeFrom stack 0 seen (c :: rest) = some c :: codeFrom next 0 (c :: seen) rest := by
  rw [codeFrom, h]

/-- A part of a literal leaves the places of its characters empty. -/
theorem codeFrom_consumed {width : Nat} {more after : Text}
    (h : step stack seen.head? c (more ++ after) = (.consumed width, next))
    (covers : (more ++ after).take (width - 1) = more) :
    codeFrom stack 0 seen (c :: (more ++ after)) =
      List.replicate (more.length + 1) none ++
        codeFrom next 0 (more.reverse ++ c :: seen) after := by
  rw [codeFrom, h, List.replicate_succ, List.cons_append]
  simp only [List.cons.injEq, true_and]
  cases after with
  | nil =>
    -- Where the text ends, the step may answer more characters than are left.
    rw [List.append_nil] at covers ⊢
    rw [codeFrom_beyond _ _ _ _ (List.take_eq_self_iff more |>.1 covers), codeFrom, List.append_nil]
  | cons d after =>
    have hwidth := Text.Path.width_eq covers (List.cons_ne_nil d after)
    rw [hwidth, codeFrom_covered]

/-- Where the view of a text begins with a code character, the text does. -/
theorem head?_of_codeFrom (h : (codeFrom stack 0 seen rest).head? = some (some d)) :
    rest.head? = some d := by
  cases rest with
  | nil => simp [codeFrom] at h
  | cons c rest =>
    rw [codeFrom] at h
    split at h <;> simp at h ⊢
    exact h

/-- A text has as many places as characters. -/
theorem length_codeFrom (stack : Stack) (k : Nat) (seen t : Text) :
    (codeFrom stack k seen t).length = t.length := by
  induction t generalizing stack k seen with
  | nil => rfl
  | cons c rest ih =>
    cases k with
    | succ k => rw [codeFrom, List.length_cons, List.length_cons, ih]
    | zero =>
      rw [codeFrom]
      split <;> rw [List.length_cons, List.length_cons, ih]

/-- A place of the view holds a character exactly if the walk visits it and finds code. -/
theorem codeFrom_eq_some_iff (stack : Stack) (n k i : Nat) (seen t : Text) :
    (codeFrom stack k seen t)[i]? = some (some c) ↔
      t[i]? = some c ∧ ∃ v ∈ Text.stops Step.width stride stack n k seen t,
        v.position = n + i ∧ v.answer = .code := by
  induction t generalizing stack n k i seen with
  | nil => simp [codeFrom]
  | cons d rest ih =>
    -- The visits of the rest are past the first place.
    have hlater {s : Stack} {k : Nat} : ¬ ∃ v ∈ Text.stops Step.width stride s (n + 1) k (d :: seen)
        rest, v.position = n ∧ v.answer = .code := by
      rintro ⟨v, hv, hposition, -⟩
      have hle := Text.le_position_of_mem_stops hv
      omega
    cases i with
    | zero =>
      cases k with
      | succ k =>
        rw [codeFrom, Text.stops]
        simpa using fun _ => hlater
      | zero =>
        rw [codeFrom, Text.stops, stride]
        rcases step stack seen.head? d rest with ⟨answer, next⟩
        cases answer with
        | code => simp
        | consumed width => simpa using fun _ => hlater
    | succ i =>
      have hnext : n + (i + 1) = n + 1 + i := by omega
      have hfirst : n ≠ n + 1 + i := by omega
      rw [hnext, List.getElem?_cons_succ]
      cases k with
      | succ k => rw [codeFrom, Text.stops, List.getElem?_cons_succ, ih]
      | zero =>
        rw [codeFrom, Text.stops, stride]
        rcases step stack seen.head? d rest with ⟨answer, next⟩
        cases answer with
        | code => simpa [hfirst, Step.width] using ih next (n + 1) 0 i (d :: seen)
        | consumed width =>
          simpa [hfirst, Step.width] using ih next (n + 1) (width - 1) i (d :: seen)

/-- A place of the view holds a character of the text exactly if the walk visits it and finds
code. -/
theorem codeView_eq_some_iff (t : Text) (i : Nat) :
    (codeView t)[i]? = some (some c) ↔
      t[i]? = some c ∧ ∃ v ∈ visits t, v.position = i ∧ v.answer = .code := by
  have h := codeFrom_eq_some_iff (c := c) [] 0 0 i [] t
  rw [Nat.zero_add] at h
  exact h

end MemberOutline.Literal
