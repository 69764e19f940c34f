import MemberOutline.Shape.Group

/-!
# The grammar of type arguments

What type arguments are, said without a scan. They hold names and what stands between names, type
arguments of their own right after a name, and round brackets around the parameters of a function
type or the fields of a record (`Items`). In these brackets may stand anything without literals and
comments whose own brackets are nested, also an angle or an equals sign (`WellBracketed`).
-/

namespace MemberOutline.Shape

open Text (isIdentifierChar isBlank)

/-- The characters that begin literals and comments. -/
def literalSigns : List Char := ['\x27', '\x22', '/']

/-- A text without literals whose round, square and curly brackets are nested. -/
inductive WellBracketed : Text → Prop
  /-- Nothing. -/
  | nil : WellBracketed []
  /-- A character that is no bracket. -/
  | char {c : Char} {t : Text} (notOpener : Group.ofOpener? c = none)
      (notCloser : Group.ofCloser? c = none) (notLiteral : c ∉ literalSigns)
      (more : WellBracketed t) : WellBracketed (c :: t)
  /-- A pair of brackets of the same group. -/
  | group {o c : Char} {g : Group} {inner t : Text} (opener : Group.ofOpener? o = some g)
      (closer : Group.ofCloser? c = some g) (inside : WellBracketed inner)
      (more : WellBracketed t) : WellBracketed (o :: (inner ++ c :: t))

/-- Whether a character stands for itself in type arguments: one of an identifier, a blank, a comma,
a point or a question mark. -/
def isItemChar (c : Char) : Bool :=
  isIdentifierChar c || isBlank c || [',', '.', '?'].contains c

/-- What may stand in type arguments, after the given characters, the nearest first. -/
inductive Items : Text → Text → Prop
  /-- Nothing more. -/
  | nil {seen : Text} : Items seen []
  /-- A character that stands for itself. -/
  | char {seen t : Text} {c : Char} (hc : isItemChar c = true) (more : Items (c :: seen) t) :
      Items seen (c :: t)
  /-- Round brackets around anything whose brackets are nested. -/
  | round {seen inner t : Text} (inside : WellBracketed inner)
      (more : Items (')' :: (inner.reverse ++ '(' :: seen)) t) :
      Items seen ('(' :: (inner ++ ')' :: t))
  /-- Type arguments right after an identifier other than `operator`. -/
  | nested {seen inner t : Text} (opens : opensArguments seen = true)
      (inside : Items ('<' :: seen) inner)
      (more : Items ('>' :: (inner.reverse ++ '<' :: seen)) t) :
      Items seen ('<' :: (inner ++ '>' :: t))

variable {t : Text} {c : Char}

/-- A text does not begin with a quote. -/
def Quoteless (t : Text) : Prop := ∀ c ∈ t.head?, c ∉ ['\x27', '\x22']

/-- A character is no quote if no literal begins with it. -/
theorem not_mem_of_literalSigns (h : c ∉ literalSigns) : c ∉ ['\x27', '\x22'] := by
  intro hmem
  have hquote : c = '\x27' ∨ c = '\x22' := by simpa using hmem
  apply h
  rcases hquote with rfl | rfl <;> decide

/-- No quote stands in a text whose brackets are nested. -/
theorem WellBracketed.quoteless (h : WellBracketed t) {rest : Text} (hrest : Quoteless rest) :
    Quoteless (t ++ rest) := by
  intro d hd
  cases h with
  | nil => exact hrest d hd
  | char _ _ notLiteral _ =>
    obtain rfl := Option.some.inj hd
    exact not_mem_of_literalSigns notLiteral
  | @group o _ g _ _ opener _ _ _ =>
    obtain rfl := Option.some.inj hd
    intro hquote
    have hcases : o = '\x27' ∨ o = '\x22' := by simpa using hquote
    rcases hcases with rfl | rfl <;> cases opener

/-- A character that stands for itself in type arguments differs from every one that does not. -/
theorem ne_of_isItemChar (hc : isItemChar c = true) {d : Char} (hd : isItemChar d = false) :
    c ≠ d := by
  rintro rfl
  rw [hc] at hd
  cases hd

/-- A character that stands for itself begins no literal. -/
theorem not_mem_literalSigns_of_isItemChar (hc : isItemChar c = true) : c ∉ literalSigns := by
  have hsingle : c ≠ '\x27' := ne_of_isItemChar hc (by decide)
  have hdouble : c ≠ '\x22' := ne_of_isItemChar hc (by decide)
  have hslash : c ≠ '/' := ne_of_isItemChar hc (by decide)
  simp [literalSigns, hsingle, hdouble, hslash]

/-- Type arguments can hold a character that stands for itself. -/
theorem argumentsHold_of_isItemChar (hc : isItemChar c = true) : argumentsHold c = true := by
  unfold isItemChar at hc
  unfold argumentsHold
  rcases Bool.or_eq_true_iff.1 hc with hword | hsign
  · rw [hword, Bool.true_or]
  · have hsigns : c = ',' ∨ c = '.' ∨ c = '?' := by simpa using hsign
    rcases hsigns with rfl | rfl | rfl <;> decide

/-- No quote stands in type arguments. -/
theorem Items.quoteless {seen : Text} (h : Items seen t) {rest : Text} (hrest : Quoteless rest) :
    Quoteless (t ++ rest) := by
  intro d hd
  cases h with
  | nil => exact hrest d hd
  | char hc _ =>
    obtain rfl := Option.some.inj hd
    exact not_mem_of_literalSigns (not_mem_literalSigns_of_isItemChar hc)
  | round _ _ =>
    obtain rfl := Option.some.inj hd
    decide
  | nested _ _ _ =>
    obtain rfl := Option.some.inj hd
    decide

end MemberOutline.Shape
