import MemberOutline.Proofs.Literal.Nesting
import MemberOutline.Proofs.Literal.Reach

/-!
# Strings of one line

A string with one quote at its ends may not span lines, so a line feed in it ends it. An escape,
however, covers the character after the backslash whichever it is, a line feed as well, and the
string goes on in the next line. `inLineString_iff_escape` says that this is the only way in which
such a string is the innermost context after a step over a line feed: every other step over one is
in code, in a context that goes on, or closes the innermost context, and right below a comment or a
string there is code or an interpolation (`Nested.not_inLineString_outer`).
-/

namespace MemberOutline.Literal

open Text (anyStep)

/-- A string with one quote at its ends is the innermost context. -/
def InLineString (stack : Stack) : Prop := ∃ q raw, stack.head? = some (.string ⟨q, false⟩ raw)

variable {steps : Nat} {stack outer : Stack} {x : Context} {before : Option Char} {c : Char}
  {rest : Text} {raw : Bool}

/-! ## What a step covers -/

/-- The delimiter of a string that opens consists of quotes. -/
theorem take_openString (q : Quote) (raw : Bool) (rest : Text) :
    (q.char :: rest).take (openString q raw rest).2 =
      List.replicate (openString q raw rest).2 q.char := by
  simp only [openString, Delimiter.width]
  split_ifs with htriple
  · obtain ⟨more, rfl⟩ := List.isPrefixOf_iff_prefix.1 htriple
    rfl
  · rfl

/-- No line feed opens a literal or is a part of what does. -/
theorem newline_not_mem_opening {o : Context × Nat} (ho : o ∈ opening? before c rest) :
    '\n' ∉ (c :: rest).take o.2 := by
  have hquotes (q : Quote) (n : Nat) : '\n' ∉ List.replicate n q.char := by
    intro hmem
    have hq := List.eq_of_mem_replicate hmem
    cases q <;> exact absurd hq (by decide)
  cases opening?_eq_some_iff.1 ho with
  | line | block => simp
  | quote q =>
    rw [take_openString]
    exact hquotes q _
  | raw q more letter =>
    have hletter : '\n' ≠ c := by
      rintro rfl
      exact absurd letter (by decide)
    rw [List.take_succ_cons, take_openString, List.mem_cons, not_or]
    exact ⟨hletter, hquotes q _⟩

/-! ## A step over a line feed -/

/-- Right below a string or a comment there is no string: it stands in code or in an
interpolation. -/
theorem Nested.not_inLineString_outer (h : Nested steps (x :: outer))
    (hx : x.isInterpolation = false) : ¬ InLineString outer := by
  rintro ⟨q, raw, hhead⟩
  have hstands := (List.isChain_cons.1 h.standsOn).1 _ hhead
  cases x with
  | interpolation braces => cases hx
  | string _ _ | lineComment | blockComment _ =>
    obtain ⟨braces, hbelow⟩ := hstands
    cases hbelow

/-- After a step over a line feed in a string, a string of one line is innermost exactly if it was
before, and the step is the escape of the line feed. -/
theorem inLineString_stringStep_iff (houter : ¬ InLineString outer) (d : Delimiter)
    (newline : '\n' ∈ (c :: rest).take (stringStep d raw c rest outer).1.width) :
    InLineString (stringStep d raw c rest outer).2 ↔
      (d.triple = false ∧ raw = false) ∧ c = '\\' ∧ ∃ more, rest = '\n' :: more := by
  have hhere : InLineString (.string d raw :: outer) ↔ d.triple = false := by
    obtain ⟨q, triple⟩ := d
    simp [InLineString]
  -- In all cases but the first the step is no escape, and it is not over one.
  have hother (hc : '\n' = c) : ¬ (c = '\\' ∧ ∃ more, rest = '\n' :: more) := by
    rintro ⟨rfl, -⟩
    exact absurd hc (by decide)
  simp only [stringStep] at newline ⊢
  split_ifs at newline ⊢ with hescape hopens hcloses hends
  · obtain ⟨hraw, rfl⟩ : raw = false ∧ c = '\\' := by simpa using hescape
    have hnext : ∃ more, rest = '\n' :: more := by
      cases rest with
      | nil => simp [Step.width] at newline
      | cons d more =>
        obtain rfl : '\n' = d := by simpa [Step.width] using newline
        exact ⟨more, rfl⟩
    rw [hhere]
    exact ⟨fun htriple => ⟨⟨htriple, hraw⟩, rfl, hnext⟩, fun h => h.1.1⟩
  · -- A dollar and a brace.
    obtain ⟨⟨-, hc⟩, hnext⟩ : (raw = false ∧ c = '$') ∧ rest.head? = some '{' := by
      simpa using hopens
    obtain ⟨more, rfl⟩ := List.head?_eq_some_iff.1 hnext
    simp [Step.width, hc] at newline
  · -- Nothing but quotes.
    have htext := List.prefix_iff_eq_take.1 (List.isPrefixOf_iff_prefix.1 hcloses)
    rw [Delimiter.length_text] at htext
    rw [Step.width, ← htext] at newline
    have hquote := List.eq_of_mem_replicate newline
    cases hq : d.quote <;> rw [hq] at hquote <;> exact absurd hquote (by decide)
  · obtain ⟨-, hc⟩ : d.triple = false ∧ c = '\n' := by simpa using hends
    exact iff_of_false houter fun h => hother hc.symm h.2
  · have hc : '\n' = c := by simpa [Step.width] using newline
    have htriple : ¬ d.triple = false := fun h => hends (by simp [h, ← hc])
    rw [hhere]
    exact iff_of_false htriple fun h => hother hc h.2

/-- After a step over a line feed a string of one line is innermost exactly if it was before and is
not raw, and the step is the escape of the line feed. -/
theorem inLineString_step_iff (h : Nested steps stack)
    (newline : '\n' ∈ (c :: rest).take (step stack before c rest).1.width) :
    InLineString (step stack before c rest).2 ↔
      ∃ q outer more, stack = .string ⟨q, false⟩ false :: outer ∧ c = '\\' ∧
        rest = '\n' :: more := by
  match stack, h with
  | [], h =>
    cases ho : opening? before c rest with
    | some o =>
      simp only [step, ho, Step.width] at newline
      exact absurd newline (newline_not_mem_opening ho)
    | none => simp [step, ho, InLineString]
  | .interpolation braces :: outer, h =>
    cases ho : opening? before c rest with
    | some o =>
      simp only [step, ho, Step.width] at newline
      exact absurd newline (newline_not_mem_opening ho)
    | none =>
      -- The line feed is no brace, so the interpolation goes on.
      simp only [step, ho, Step.width, List.take_succ_cons, List.take_zero,
        List.mem_singleton] at newline
      subst newline
      simp [step, ho, InLineString, braceStep]
  | .lineComment :: outer, h =>
    simp only [step, Step.width, List.take_succ_cons, List.take_zero,
      List.mem_singleton] at newline
    subst newline
    simp [step, h.not_inLineString_outer rfl]
  | .blockComment depth :: outer, h =>
    have houter := h.not_inLineString_outer rfl
    simp only [step, commentStep]
    split_ifs
    all_goals simp_all [InLineString]
  | .string ⟨q, triple⟩ raw :: outer, h =>
    have hstring := inLineString_stringStep_iff (h.not_inLineString_outer rfl) ⟨q, triple⟩ newline
    rw [step, hstring]
    constructor
    · rintro ⟨⟨rfl, rfl⟩, rfl, more, rfl⟩
      exact ⟨q, outer, more, rfl, rfl, rfl⟩
    · rintro ⟨q, outer, more, ⟨⟩, rfl, rfl⟩
      exact ⟨⟨rfl, rfl⟩, rfl, more, rfl⟩

/-! ## A walk over line feeds -/

/-- Wherever a walk through a text from its start takes a step over a line feed, a string of one
line is innermost after the step exactly if the step is the escape of the line feed in such a
string, and this string is not raw. -/
theorem inLineString_iff_escape (a b : Text) (c : Char) (stack : Stack)
    (arrives : Text.Path Step.width stride anyStep [] [] a (c :: b) stack)
    (newline : '\n' ∈ (c :: b).take (step stack a.getLast? c b).1.width) :
    InLineString (step stack a.getLast? c b).2 ↔
      ∃ q outer more, stack = .string ⟨q, false⟩ false :: outer ∧ c = '\\' ∧
        b = '\n' :: more := by
  have hkeeps : ∀ stack seen c rest, anyStep stack seen c rest → (∃ steps, Nested steps stack) →
      ∃ steps, Nested steps (stride stack seen c rest).2 := by
    rintro stack seen c rest - ⟨steps, h⟩
    exact ⟨steps + 1, h.step _ _ _⟩
  obtain ⟨steps, hnested⟩ := arrives.keeps hkeeps ⟨0, .nil⟩
  exact inLineString_step_iff hnested newline

/-- A line feed ends a string in an interpolation, and the interpolation is innermost after it. -/
theorem inLineString_iff_escape_broken :
    ∃ stack, Text.Path Step.width stride anyStep [] [] "\x27$\x7b\x22b".toList
        "\n\x22\x7d".toList stack ∧
      InLineString stack ∧ ¬ InLineString (step stack (some 'b') '\n' "\x22\x7d".toList).2 := by
  have harrival : Text.arrival? Step.width stride (fun _ _ _ _ => true) [] 0 []
      "\x27$\x7b\x22b".toList "\n\x22\x7d".toList =
        some [.string ⟨.double, false⟩ false, .interpolation 0,
          .string ⟨.single, false⟩ false] := by decide
  have hpath := (Text.path_of_arrival harrival).1.mono fun _ _ _ _ _ => (trivial : True)
  have hiff := inLineString_iff_escape _ "\x22\x7d".toList '\n' _ hpath (by decide)
  refine ⟨_, hpath, ⟨.double, false, rfl⟩, fun hline => ?_⟩
  obtain ⟨_, _, _, -, hescape, -⟩ := hiff.1 hline
  exact absurd hescape (by decide)

/-- A string whose second line begins after an escape. -/
def escapedNewline : Text := "\x27\\\n;".toList

/-- In a string with an escaped line feed the step over that line feed leaves the string open, so
the semicolon after it is no code. -/
theorem inLineString_after_escape :
    visits escapedNewline =
        [⟨0, .consumed 1, [.string ⟨.single, false⟩ false]⟩,
          ⟨1, .consumed 2, [.string ⟨.single, false⟩ false]⟩,
          ⟨3, .consumed 1, [.string ⟨.single, false⟩ false]⟩] ∧
      ¬ ∀ v ∈ visits escapedNewline,
        '\n' ∈ (escapedNewline.drop v.position).take v.answer.width → ¬ InLineString v.state := by
  have hvisits : visits escapedNewline =
      [⟨0, .consumed 1, [.string ⟨.single, false⟩ false]⟩,
        ⟨1, .consumed 2, [.string ⟨.single, false⟩ false]⟩,
        ⟨3, .consumed 1, [.string ⟨.single, false⟩ false]⟩] := by decide
  refine ⟨hvisits, fun hnever => ?_⟩
  have hescape : ⟨1, .consumed 2, [.string ⟨.single, false⟩ false]⟩ ∈ visits escapedNewline := by
    rw [hvisits]
    simp
  exact hnever _ hescape (by decide) ⟨.single, false, rfl⟩

end MemberOutline.Literal
