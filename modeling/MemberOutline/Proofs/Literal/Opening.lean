import MemberOutline.Literal.Step
import MemberOutline.Proofs.Text.Path

/-!
# What opens a literal

The openings of literals one by one (`opening?_line`, `opening?_block`, `opening?_quote` and
`opening?_raw`), which are all there are (`opening?_eq_some_iff`), and the condition under which a
character opens none (`opening?_eq_none_iff`), which most characters meet wherever they stand
(`opening?_of_not_mem`).
-/

namespace MemberOutline.Literal

open Text (isIdentifierChar)

/-! ## Quotes and delimiters -/

/-- A character is read as a quote exactly if it is the character of that quote. -/
theorem Quote.ofChar?_eq_some_iff {c : Char} {q : Quote} :
    Quote.ofChar? c = some q ↔ c = q.char := by
  unfold Quote.ofChar?
  cases q <;> split_ifs <;> simp_all [Quote.char]

/-- A quote is read as itself. -/
@[simp]
theorem Quote.ofChar?_char (q : Quote) : Quote.ofChar? q.char = some q :=
  Quote.ofChar?_eq_some_iff.2 rfl

/-- A quote is neither a slash nor a letter before a raw string. -/
theorem Quote.char_ne (q : Quote) : q.char ≠ '/' ∧ q.char ≠ 'r' ∧ q.char ≠ 'R' := by
  cases q <;> decide

/-- A quote belongs to no identifier. -/
theorem Quote.not_isIdentifierChar (q : Quote) : isIdentifierChar q.char = false := by
  cases q <;> decide

/-- A delimiter has at least one character. -/
theorem Delimiter.width_pos (d : Delimiter) : 0 < d.width := by
  unfold Delimiter.width
  split_ifs <;> decide

/-- A delimiter has as many characters as its width says. -/
@[simp]
theorem Delimiter.length_text (d : Delimiter) : d.text.length = d.width := by
  simp [Delimiter.text]

/-- A delimiter begins with its quote. -/
theorem Delimiter.text_eq_cons (d : Delimiter) :
    d.text = d.quote.char :: List.replicate (d.width - 1) d.quote.char := by
  obtain ⟨q, triple⟩ := d
  cases triple <;> rfl

/-- A delimiter is the same from both ends. -/
@[simp]
theorem Delimiter.reverse_text (d : Delimiter) : d.text.reverse = d.text := by
  simp [Delimiter.text]

/-- A delimiter is not empty. -/
theorem Delimiter.head?_text_append (d : Delimiter) (t : Text) :
    (d.text ++ t).head? = some d.quote.char := by
  rw [d.text_eq_cons]
  rfl

/-- A delimiter that is not threefold is its quote. -/
theorem Delimiter.text_of_single {d : Delimiter} (hone : d.triple = false) :
    d.text = [d.quote.char] := by
  rw [d.text_eq_cons, Delimiter.width, hone]
  rfl

/-! ## Openings -/

/-- Two slashes open a comment up to the end of the line. -/
theorem opening?_line (before : Option Char) (rest : Text) :
    opening? before '/' ('/' :: rest) = some (.lineComment, 2) := by
  simp [opening?]

/-- A slash and a star open a block comment. -/
theorem opening?_block (before : Option Char) (rest : Text) :
    opening? before '/' ('*' :: rest) = some (.blockComment 1, 2) := by
  simp [opening?]

/-- A quote opens a string. -/
theorem opening?_quote (before : Option Char) (q : Quote) (rest : Text) :
    opening? before q.char rest = some (openString q false rest) := by
  simp [opening?, q.char_ne.1]

/-- A letter directly before a quote opens a raw string, unless it ends an identifier. -/
theorem opening?_raw {before : Option Char} {c : Char} (q : Quote) (rest : Text)
    (hc : c = 'r' ∨ c = 'R') (hbefore : before.any isIdentifierChar = false) :
    opening? before c (q.char :: rest) =
      some ((openString q true rest).1, (openString q true rest).2 + 1) := by
  have hslash : c ≠ '/' := by rintro rfl; simp at hc
  have hquote : Quote.ofChar? c = none := by rcases hc with rfl | rfl <;> rfl
  simp [opening?, hslash, hquote, hc, hbefore]

/-- What opens, by the characters there: the context and the width of its opening. -/
inductive Opens (before : Option Char) : Char → Text → Context × Nat → Prop
  /-- Two slashes. -/
  | line (rest : Text) : Opens before '/' ('/' :: rest) (.lineComment, 2)
  /-- A slash and a star. -/
  | block (rest : Text) : Opens before '/' ('*' :: rest) (.blockComment 1, 2)
  /-- A quote. -/
  | quote (q : Quote) (rest : Text) : Opens before q.char rest (openString q false rest)
  /-- A letter and a quote, after no identifier. -/
  | raw {c : Char} (q : Quote) (rest : Text) (letter : c = 'r' ∨ c = 'R')
      (apart : before.any isIdentifierChar = false) :
      Opens before c (q.char :: rest) ((openString q true rest).1, (openString q true rest).2 + 1)

/-- There is no other opening. -/
theorem opening?_eq_some_iff {before : Option Char} {c : Char} {rest : Text} {o : Context × Nat} :
    opening? before c rest = some o ↔ Opens before c rest o := by
  constructor
  · intro h
    cases hq : Quote.ofChar? c with
    | some q =>
      obtain rfl := Quote.ofChar?_eq_some_iff.1 hq
      rw [opening?_quote] at h
      cases h
      exact .quote q rest
    | none =>
      unfold opening? at h
      rw [hq] at h
      split_ifs at h with hline hblock hraw
      · obtain ⟨rfl, hnext⟩ := hline
        obtain ⟨more, rfl⟩ := List.head?_eq_some_iff.1 hnext
        cases h
        exact .line more
      · obtain ⟨rfl, hnext⟩ := hblock
        obtain ⟨more, rfl⟩ := List.head?_eq_some_iff.1 hnext
        cases h
        exact .block more
      · cases rest with
        | nil => cases h
        | cons d more =>
          obtain ⟨q, hd, rfl⟩ := Option.map_eq_some_iff.1 h
          obtain rfl := Quote.ofChar?_eq_some_iff.1 hd
          exact .raw q more hraw.1 (Bool.eq_false_iff.2 hraw.2)
  · intro h
    cases h with
    | line rest => exact opening?_line before rest
    | block rest => exact opening?_block before rest
    | quote q rest => exact opening?_quote before q rest
    | raw q rest letter apart => exact opening?_raw q rest letter apart

/-- A character opens nothing exactly if it is no quote, starts no comment and is no letter before
a raw string. -/
theorem opening?_eq_none_iff {before : Option Char} {c : Char} {rest : Text} :
    opening? before c rest = none ↔
      Quote.ofChar? c = none ∧
        ¬ (c = '/' ∧ (rest.head? = some '/' ∨ rest.head? = some '*')) ∧
        ¬ ((c = 'r' ∨ c = 'R') ∧ before.any isIdentifierChar = false ∧
          (rest.head?.bind Quote.ofChar?).isSome) := by
  -- No character is two of these, so each test decides its own case.
  by_cases hslash : c = '/'
  · subst hslash
    have hq : Quote.ofChar? '/' = none := rfl
    by_cases h1 : rest.head? = some '/'
    · simp [opening?, h1]
    · by_cases h2 : rest.head? = some '*'
      · simp [opening?, h2]
      · simp [opening?, h1, h2, hq]
  · cases hq : Quote.ofChar? c with
    | some q => simp [opening?, hslash, hq]
    | none =>
      by_cases hraw : (c = 'r' ∨ c = 'R') ∧ before.any isIdentifierChar = false
      · cases rest with
        | nil => simp [opening?, hslash, hq, hraw]
        | cons d more => cases hd : Quote.ofChar? d <;> simp [opening?, hslash, hq, hraw, hd]
      · simp only [not_and] at hraw
        by_cases hletter : c = 'r' ∨ c = 'R'
        · simp [opening?, hslash, hq, hletter, hraw hletter]
        · simp [opening?, hslash, hq, hletter]

/-- A character that is no quote, no slash and no letter of a raw string opens nothing. -/
theorem opening?_of_not_mem {before : Option Char} {c : Char} {rest : Text}
    (hc : c ∉ ['\x27', '\x22', '/', 'r', 'R']) : opening? before c rest = none := by
  have hmem (q : Quote) : q.char ∈ ['\x27', '\x22', '/', 'r', 'R'] := by cases q <;> decide
  rw [opening?_eq_none_iff]
  refine ⟨?_, ?_, ?_⟩
  · rw [Option.eq_none_iff_forall_ne_some]
    intro q hq
    rw [Quote.ofChar?_eq_some_iff.1 hq] at hc
    exact hc (hmem q)
  · rintro ⟨rfl, -⟩
    exact hc (by decide)
  · rintro ⟨rfl | rfl, -⟩
    · exact hc (by decide)
    · exact hc (by decide)

/-- Outside all literals such a character is code. -/
theorem step_of_not_mem {before : Option Char} {c : Char} {rest : Text}
    (hc : c ∉ ['\x27', '\x22', '/', 'r', 'R']) : step [] before c rest = (.code, []) := by
  simp only [step, opening?_of_not_mem hc]

/-- Only a quote opens a literal by itself; any other opening has two characters or more. -/
theorem two_le_of_opening? {before : Option Char} {c : Char} {rest : Text} {o : Context × Nat}
    (hc : Quote.ofChar? c = none) (h : o ∈ opening? before c rest) : 2 ≤ o.2 := by
  cases opening?_eq_some_iff.1 h with
  | line | block => exact Nat.le_refl 2
  | quote q =>
    rw [Quote.ofChar?_char] at hc
    cases hc
  | raw q => exact Nat.succ_le_succ (Delimiter.width_pos _)

end MemberOutline.Literal
