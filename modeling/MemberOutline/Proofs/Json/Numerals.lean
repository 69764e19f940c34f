import MemberOutline.Json.Pretty
import MemberOutline.Json.Reader

/-!
# Numerals in JSON

A numeral is read back from the way it is written (`readNumber_text`) where no digit, point or
exponent follows it. Each of its parts ends where the next one begins, since what begins a part is
no digit.
-/

namespace MemberOutline.Json

/-- Digits, at least one. -/
def IsDigits (t : Text) : Prop := t ≠ [] ∧ ∀ c ∈ t, c.isDigit = true

/-- A numeral as JSON allows it. -/
structure Numeral.WellFormed (n : Numeral) : Prop where
  /-- There are digits before the point. -/
  whole : IsDigits n.whole
  /-- A zero stands alone there. -/
  leading : ¬ (n.whole.length > 1 ∧ n.whole.head? = some '0')
  /-- There are digits after the point, if there is one. -/
  fraction : ∀ digits ∈ n.fraction, IsDigits digits
  /-- The exponent has digits, if there is one. -/
  exponent : ∀ e ∈ n.exponent, IsDigits e.2

/-- No digit comes first in a text. -/
def NoDigit (t : Text) : Prop := ∀ c ∈ t.head?, c.isDigit = false

/-- What comes after a value in a text: nothing, a comma or a new line. -/
def Closes (t : Text) : Prop := ∀ c ∈ t.head?, c = ',' ∨ c = '\n'

/-- The point and the digits after it as they are written. -/
def fractionText : Option Text → Text
  | some digits => '.' :: digits
  | none => []

/-- The exponent as it is written. -/
def exponentText : Option (Bool × Text) → Text
  | some (true, digits) => 'e' :: '-' :: digits
  | some (false, digits) => 'e' :: digits
  | none => []

variable {digits rest : Text} {c : Char}

/-- No value goes on with a digit. -/
theorem Closes.noDigit (h : Closes rest) : NoDigit rest := by
  intro c hc
  rcases h c hc with rfl | rfl <;> decide

/-- The first character of a text of digits is a digit. -/
theorem IsDigits.exists_cons (h : IsDigits digits) :
    ∃ d more, digits = d :: more ∧ d.isDigit = true := by
  obtain ⟨hne, hdigits⟩ := h
  obtain ⟨d, more, rfl⟩ := List.exists_cons_of_ne_nil hne
  exact ⟨d, more, rfl, hdigits d List.mem_cons_self⟩

/-- Digits are read up to something else. -/
theorem readDigits_append (h : IsDigits digits) (hrest : NoDigit rest) :
    readDigits (digits ++ rest) = some (digits, rest) := by
  obtain ⟨hne, hdigits⟩ := h
  have hstop : rest.takeWhile Char.isDigit = [] ∧ rest.dropWhile Char.isDigit = rest := by
    cases rest with
    | nil => exact ⟨rfl, rfl⟩
    | cons c rest =>
      have hc : ¬ c.isDigit = true := Bool.eq_false_iff.1 (hrest c rfl)
      exact ⟨List.takeWhile_cons_of_neg hc, List.dropWhile_cons_of_neg hc⟩
  unfold readDigits
  rw [List.takeWhile_append_of_pos hdigits, List.dropWhile_append_of_pos hdigits, hstop.1, hstop.2,
    List.append_nil]
  exact if_neg hne

/-- An exponent is read from the way it is written. -/
theorem readExponent_text {e : Option (Bool × Text)} (h : ∀ e' ∈ e, IsDigits e'.2)
    (hrest : Closes rest) : readExponent (exponentText e ++ rest) = some (e, rest) := by
  match e, h with
  | none, _ =>
    cases rest with
    | nil => rfl
    | cons c rest =>
      have hc : ¬ (c = 'e' ∨ c = 'E') := by
        rcases hrest c rfl with rfl | rfl <;> decide
      exact if_neg hc
  | some (true, digits), h =>
    have hdigits := readDigits_append (h _ rfl) hrest.noDigit
    show (readDigits (digits ++ rest)).map _ = _
    rw [hdigits]
    rfl
  | some (false, digits), h =>
    have hdigits := readDigits_append (h _ rfl) hrest.noDigit
    obtain ⟨d, more, rfl, hd⟩ := (h _ rfl).exists_cons
    have hdigits : readDigits (d :: (more ++ rest)) = some (d :: more, rest) := hdigits
    show readExponent ('e' :: d :: (more ++ rest)) = _
    rw [readExponent, if_pos (.inl rfl), hdigits]
    · rfl
    -- The first digit is no sign.
    all_goals
      rintro _ heq
      rw [(List.cons.inj heq).1] at hd
      cases hd

/-- A fraction is read from the way it is written. -/
theorem readFraction_text {fraction : Option Text} (h : ∀ digits ∈ fraction, IsDigits digits)
    (hrest : NoDigit rest) (hpoint : rest.head? ≠ some '.') :
    readFraction (fractionText fraction ++ rest) = some (fraction, rest) := by
  cases fraction with
  | some digits =>
    have hdigits := readDigits_append (h digits rfl) hrest
    show (readDigits (digits ++ rest)).map _ = _
    rw [hdigits]
    rfl
  | none =>
    show readFraction rest = _
    rw [readFraction]
    rintro more rfl
    exact hpoint rfl

/-- No exponent begins with a digit or a point, and nor does what follows a value. -/
theorem head?_exponentText (e : Option (Bool × Text)) (hrest : Closes rest) :
    NoDigit (exponentText e ++ rest) ∧ (exponentText e ++ rest).head? ≠ some '.' := by
  match e with
  | none =>
    refine ⟨hrest.noDigit, fun hpoint => ?_⟩
    have hclose := hrest '.' hpoint
    exact absurd hclose (by decide)
  | some (true, digits) | some (false, digits) =>
    have hsign : NoDigit ('e' :: digits) := by
      intro c hc
      obtain rfl := Option.some.inj hc
      decide
    refine ⟨fun c hc => hsign c hc, fun hpoint => ?_⟩
    cases Option.some.inj hpoint

/-- A number without its sign is read from the way it is written. -/
theorem readUnsigned_text {n : Numeral} (h : n.WellFormed) (hrest : Closes rest) :
    readUnsigned n.negative
        (n.whole ++ (fractionText n.fraction ++ (exponentText n.exponent ++ rest))) =
      some (n, rest) := by
  obtain ⟨hdigit, hpoint⟩ := head?_exponentText n.exponent hrest
  have hfraction := readFraction_text h.fraction hdigit hpoint
  have hexponent := readExponent_text h.exponent hrest
  have hend : NoDigit (fractionText n.fraction ++ (exponentText n.exponent ++ rest)) := by
    cases n.fraction with
    | some digits =>
      intro c hc
      obtain rfl := Option.some.inj hc
      decide
    | none => exact hdigit
  have hwhole := readDigits_append h.whole hend
  unfold readUnsigned
  simp only [hwhole, Option.bind_eq_bind, Option.bind_some, if_neg h.leading, hfraction, hexponent]
  rfl

/-- A numeral is read from the way it is written. -/
theorem readNumber_text {n : Numeral} (h : n.WellFormed) (hrest : Closes rest) :
    readNumber (n.text ++ rest) = some (n, rest) := by
  have htext : n.text ++ rest = (if n.negative then ['-'] else []) ++
      (n.whole ++ (fractionText n.fraction ++ (exponentText n.exponent ++ rest))) := by
    unfold Numeral.text
    rw [List.append_assoc, List.append_assoc, List.append_assoc]
    rfl
  have hunsigned := readUnsigned_text h hrest
  rw [htext]
  cases hnegative : n.negative with
  | true =>
    rw [hnegative] at hunsigned
    exact hunsigned
  | false =>
    rw [hnegative] at hunsigned
    obtain ⟨d, more, hwhole, hd⟩ := h.whole.exists_cons
    rw [hwhole] at hunsigned ⊢
    show readNumber (d :: (more ++ _)) = _
    rw [readNumber]
    · exact hunsigned
    -- The first digit is no sign.
    · rintro _ heq
      rw [(List.cons.inj heq).1] at hd
      cases hd

end MemberOutline.Json
