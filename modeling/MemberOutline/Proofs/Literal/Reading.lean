import MemberOutline.Proofs.Literal.Grammar
import MemberOutline.Proofs.Literal.Opening

/-!
# Reading a literal

A walk reads every literal of the grammar as one: the main statement is `literal_read`. Wherever a
walk stops at code and a literal stands there, its next step opens the literal, the following ones
are all inside it, and it stops right after it with the same contexts open as before.

The proof follows the derivation. Each form of text is read with its own context on top
(`Form.Read`), whatever is open below, and each rule of the grammar has a lemma that puts the paths
of its parts together.
-/

namespace MemberOutline.Literal

open Text (isIdentifierChar anyStep)

/-! ## The steps of a literal -/

variable {outer : Stack} {before : Option Char} {c : Char} {rest : Text}

/-- Contexts in which a walk looks for literals: none, or an interpolation on top. -/
def HoldsCode (stack : Stack) : Prop :=
  stack = [] ∨ ∃ braces outer, stack = .interpolation braces :: outer

/-- Where code stands, an opening opens. -/
theorem step_opening {stack : Stack} {context : Context} {width : Nat} (hcode : HoldsCode stack)
    (h : opening? before c rest = some (context, width)) :
    step stack before c rest = (.consumed width, context :: stack) := by
  obtain rfl | ⟨braces, outer, rfl⟩ := hcode <;> simp [step, h]

/-- A plain character of code opens nothing. -/
theorem PlainInCode.opening?_eq_none (h : PlainInCode before c rest) :
    opening? before c rest = none := by
  obtain ⟨hquote, hline, hblock, hraw⟩ := h
  rw [opening?_eq_none_iff]
  refine ⟨?_, ?_, ?_⟩
  · rw [Option.eq_none_iff_forall_ne_some]
    exact fun q hq => hquote q (Quote.ofChar?_eq_some_iff.1 hq)
  · rintro ⟨rfl, hhead | hhead⟩
    · obtain ⟨tail, rfl⟩ := List.head?_eq_some_iff.1 hhead
      exact hline (List.prefix_append ['/', '/'] tail)
    · obtain ⟨tail, rfl⟩ := List.head?_eq_some_iff.1 hhead
      exact hblock (List.prefix_append ['/', '*'] tail)
  · rintro ⟨hletter, halone, hhead⟩
    obtain ⟨q, hq⟩ := Option.isSome_iff_exists.1 hhead
    obtain ⟨d, hd, hdq⟩ := Option.bind_eq_some_iff.1 hq
    exact hraw hletter halone q (Quote.ofChar?_eq_some_iff.1 hdq ▸ hd)

/-- What stands after the first quote of a delimiter tells how wide it is. -/
theorem openString_eq {d : Delimiter} (raw : Bool) {body after : Text}
    (hfirst : d.triple = false → ¬ [d.quote.char, d.quote.char] <+: body ++ after) :
    openString d.quote raw (List.replicate (d.width - 1) d.quote.char ++ (body ++ after)) =
      (.string d raw, d.width) := by
  obtain ⟨q, triple⟩ := d
  cases triple with
  | true => simp [openString, Delimiter.width, List.replicate]
  | false =>
    have hnot : [q.char, q.char].isPrefixOf (body ++ after) = false := by
      rw [← Bool.not_eq_true, List.isPrefixOf_iff_prefix]
      exact hfirst rfl
    simp [openString, Delimiter.width, hnot]

/-- The content of a string does not begin with the closing quote. -/
theorem Stands.ne_quote {d : Delimiter} {raw : Bool} {body after : Text}
    (h : Stands (.content d raw) before (c :: body) after) (hone : d.triple = false) :
    c ≠ d.quote.char := by
  cases h with
  | contentChar plain more =>
    rintro rfl
    refine plain.1 ?_
    rw [Delimiter.text_of_single hone]
    exact List.prefix_append [d.quote.char] _
  | escape more => cases d.quote <;> decide
  | interpolation inside more => cases d.quote <;> decide

/-- The content of a string, and after it the closing delimiter, do not begin like the rest of three
quotes. -/
theorem not_third_quote {d : Delimiter} {raw : Bool} {body after : Text}
    (inside : Stands (.content d raw) before body (d.text ++ after))
    (empty : NotThird d body after) (hone : d.triple = false) :
    ¬ [d.quote.char, d.quote.char] <+: body ++ (d.text ++ after) := by
  cases body with
  | nil =>
    rw [Delimiter.text_of_single hone]
    intro h
    obtain ⟨tail, htail⟩ := (List.cons_prefix_cons.1 h).2
    exact empty rfl hone (by rw [← show _ = after from htail]; rfl)
  | cons c body =>
    intro h
    exact inside.ne_quote hone (List.cons_prefix_cons.1 h).1.symm

/-- An escape covers the character after the backslash. -/
theorem step_escape (d : Delimiter) (c : Char) :
    step (.string d false :: outer) before '\\' (c :: rest) =
      (.consumed 2, .string d false :: outer) := by
  simp [step, stringStep]

/-- A dollar and a brace open an interpolation. -/
theorem step_interpolation (d : Delimiter) :
    step (.string d false :: outer) before '$' ('{' :: rest) =
      (.consumed 2, .interpolation 0 :: .string d false :: outer) := by
  simp [step, stringStep]

/-- The delimiter closes a string. -/
theorem step_delimiter (d : Delimiter) (raw : Bool) :
    step (.string d raw :: outer) before d.quote.char
        (List.replicate (d.width - 1) d.quote.char ++ rest) = (.consumed d.width, outer) := by
  have hquote : d.quote.char ≠ '\\' ∧ d.quote.char ≠ '$' := by cases d.quote <;> decide
  have hcloses : d.text.isPrefixOf
      (d.quote.char :: (List.replicate (d.width - 1) d.quote.char ++ rest)) := by
    rw [List.isPrefixOf_iff_prefix, ← List.cons_append, ← d.text_eq_cons]
    exact List.prefix_append d.text rest
  simp [step, stringStep, hquote.1, hquote.2, hcloses]

/-- A plain character of a string stands for itself. -/
theorem PlainInString.step_eq {d : Delimiter} {raw : Bool} (h : PlainInString d raw c rest) :
    step (.string d raw :: outer) before c rest = (.consumed 1, .string d raw :: outer) := by
  obtain ⟨hclose, hraw, hline⟩ := h
  have hescape : (!raw && decide (c = '\\')) = false := by
    cases raw with
    | true => rfl
    | false => simp [(hraw rfl).1]
  have hopen : (!raw && decide (c = '$') && decide (rest.head? = some '{')) = false := by
    cases raw with
    | true => rfl
    | false =>
      rw [← Bool.not_eq_true]
      simp only [Bool.not_false, Bool.true_and, Bool.and_eq_true, decide_eq_true_eq]
      rintro ⟨rfl, hhead⟩
      obtain ⟨tail, rfl⟩ := List.head?_eq_some_iff.1 hhead
      exact (hraw rfl).2 (List.prefix_append ['$', '{'] tail)
  have hcloses : d.text.isPrefixOf (c :: rest) = false := by
    rw [← Bool.not_eq_true, List.isPrefixOf_iff_prefix]
    exact hclose
  have hends : (!d.triple && decide (c = '\n')) = false := by
    cases htriple : d.triple with
    | true => rfl
    | false => simp [hline htriple]
  simp [step, stringStep, hescape, hopen, hcloses, hends]

/-- A plain character of a block comment leaves it as it is. -/
theorem PlainInComment.step_eq {depth : Nat} (h : PlainInComment c rest) :
    step (.blockComment depth :: outer) before c rest =
      (.consumed 1, .blockComment depth :: outer) := by
  obtain ⟨hopen, hclose⟩ := h
  have hnotOpen : ¬ (c = '/' ∧ rest.head? = some '*') := by
    rintro ⟨rfl, hhead⟩
    obtain ⟨tail, rfl⟩ := List.head?_eq_some_iff.1 hhead
    exact hopen (List.prefix_append ['/', '*'] tail)
  have hnotClose : ¬ (c = '*' ∧ rest.head? = some '/') := by
    rintro ⟨rfl, hhead⟩
    obtain ⟨tail, rfl⟩ := List.head?_eq_some_iff.1 hhead
    exact hclose (List.prefix_append ['*', '/'] tail)
  simp only [step, commentStep, hnotOpen, hnotClose, if_false]

/-- A block comment in a block comment counts one more that is open. -/
theorem step_commentOpen (depth : Nat) :
    step (.blockComment depth :: outer) before '/' ('*' :: rest) =
      (.consumed 2, .blockComment (depth + 1) :: outer) := by
  simp [step, commentStep]

/-- The end of a block comment inside another one leaves one less open. -/
theorem step_commentClose (depth : Nat) :
    step (.blockComment (depth + 2) :: outer) before '*' ('/' :: rest) =
      (.consumed 2, .blockComment (depth + 1) :: outer) := by
  simp [step, commentStep]

/-- The end of the outermost block comment closes it. -/
theorem step_commentEnd :
    step (.blockComment 1 :: outer) before '*' ('/' :: rest) = (.consumed 2, outer) := by
  simp [step, commentStep]

/-- In an interpolation what opens no literal counts only if it is a brace. -/
theorem step_code {braces : Nat} (h : opening? before c rest = none) :
    step (.interpolation braces :: outer) before c rest =
      (.consumed 1, braceStep c braces outer) := by
  simp [step, h]

/-- A brace opens nothing. -/
theorem opening?_brace (hc : c = '{' ∨ c = '}') : opening? before c rest = none := by
  rcases hc with rfl | rfl <;> exact opening?_of_not_mem (by decide)

/-! ## Reading a literal -/

/-- A step inside a literal: it finds no code, and more is open than outside the literal. -/
def Inside (outer : Stack) : Text.Condition Stack := fun stack seen c rest =>
  (step stack seen.head? c rest).1 ≠ .code ∧ outer.length < stack.length

/-- A walk reads a text as one literal: the first step opens a context, the steps after it are
inside, and right after the text that context is closed and the walk stops. -/
def ReadsLiteral (stack : Stack) (seen literal after : Text) : Prop :=
  ∃ c more body context, literal = c :: (more ++ body) ∧
    step stack seen.head? c (more ++ (body ++ after)) =
      (.consumed (more.length + 1), context :: stack) ∧
    Text.Path Step.width stride (Inside stack) (context :: stack) (more.reverse ++ c :: seen) body
      after stack

/-- How a walk reads a text of each form, after the characters seen: a literal where code stands,
and what is in a comment, a string or an interpolation by steps that leave that context open. -/
def Form.Read (form : Form) (seen t after : Text) : Prop :=
  match form with
  | .literal => ∀ stack, HoldsCode stack → ReadsLiteral stack seen t after
  | .comment => ∀ depth outer, Text.Path Step.width stride (Inside outer)
      (.blockComment (depth + 1) :: outer) seen t after (.blockComment (depth + 1) :: outer)
  | .content d raw => ∀ outer, Text.Path Step.width stride (Inside outer)
      (.string d raw :: outer) seen t after (.string d raw :: outer)
  | .code => ∀ braces outer, Text.Path Step.width stride (Inside outer)
      (.interpolation braces :: outer) seen t after (.interpolation braces :: outer)

variable {seen body inner after : Text} {d : Delimiter} {raw : Bool}

/-- A step that is known is inside its context. -/
theorem inside_of_step {context : Context} {width : Nat} {next : Stack}
    (h : step (context :: outer) seen.head? c rest = (.consumed width, next)) :
    Inside outer (context :: outer) seen c rest := by
  constructor
  · rw [h]
    exact fun hcode => by cases hcode
  · simp

/-- What is inside an inner literal is inside the outer one. -/
theorem Inside.mono {stack : Stack} (hle : outer.length ≤ stack.length) :
    ∀ s seen c rest, Inside stack s seen c rest → Inside outer s seen c rest :=
  fun _ _ _ _ h => ⟨h.1, Nat.lt_of_le_of_lt hle h.2⟩

/-- From inside a line comment its line feed leads out of it. -/
theorem path_line {stack : Stack} (within : '\n' ∉ body) (seen : Text) :
    Text.Path Step.width stride (Inside stack) (.lineComment :: stack) seen (body ++ ['\n']) after
      stack := by
  induction body generalizing seen with
  | nil => exact .cons_one ⟨by simp [step], by simp⟩ rfl rfl .stay
  | cons c body ih =>
    have hc : c ≠ '\n' := fun h => within (h ▸ List.mem_cons_self)
    have hstep : stride (.lineComment :: stack) seen c (body ++ ['\n'] ++ after) =
        (.consumed 1, .lineComment :: stack) := by
      simp [stride, step, hc]
    exact .cons_one (inside_of_step hstep) hstep rfl
      (ih (fun h => within (List.mem_cons_of_mem c h)) _)

/-- A line comment is read as one literal. -/
theorem read_line (within : '\n' ∉ body) :
    Form.Read .literal seen ('/' :: '/' :: (body ++ ['\n'])) after := by
  intro stack hcode
  refine ⟨'/', ['/'], body ++ ['\n'], .lineComment, rfl, ?_, path_line within _⟩
  exact step_opening hcode (opening?_line _ _)

/-- A block comment is read as one literal, if what it contains is read inside it. -/
theorem read_block (inside : Form.Read .comment ('*' :: '/' :: seen) body ('*' :: '/' :: after)) :
    Form.Read .literal seen ('/' :: '*' :: (body ++ ['*', '/'])) after := by
  intro stack hcode
  refine ⟨'/', ['*'], body ++ ['*', '/'], .blockComment 1, rfl, ?_, ?_⟩
  · exact step_opening hcode (opening?_block _ _)
  · -- One comment is open, so the star and the slash after the body close it.
    refine Text.Path.trans (inside 0 stack) ?_
    exact .cons_two (inside_of_step step_commentEnd) step_commentEnd rfl .stay

/-- From the content of a string the closing delimiter leads out of it. -/
theorem path_string {stack : Stack}
    (inside : Form.Read (.content d raw) seen body (d.text ++ after)) :
    Text.Path Step.width stride (Inside stack) (.string d raw :: stack) seen (body ++ d.text) after
      stack := by
  refine Text.Path.trans (inside stack) ?_
  have hclose : stride (.string d raw :: stack) (body.reverse ++ seen) d.quote.char
      (List.replicate (d.width - 1) d.quote.char ++ ([] ++ after)) = (.consumed d.width, stack) :=
    step_delimiter d raw
  rw [d.text_eq_cons, ← List.append_nil (List.replicate _ _)]
  refine .cons _ (inside_of_step hclose) hclose ?_ .stay
  rw [List.length_replicate]
  exact (Nat.sub_add_cancel d.width_pos).symm

/-- A string is read as one literal, if what it contains is read inside it. -/
theorem read_string
    (inside : Form.Read (.content d false) (d.text.reverse ++ seen) body (d.text ++ after))
    (hthird : d.triple = false → ¬ [d.quote.char, d.quote.char] <+: body ++ (d.text ++ after)) :
    Form.Read .literal seen (d.text ++ (body ++ d.text)) after := by
  intro stack hcode
  refine ⟨d.quote.char, List.replicate (d.width - 1) d.quote.char, body ++ d.text,
    .string d false, ?_, ?_, ?_⟩
  · rw [d.text_eq_cons, List.cons_append]
  · refine step_opening hcode ?_
    rw [opening?_quote, List.append_assoc, openString_eq false hthird, List.length_replicate,
      Nat.sub_add_cancel d.width_pos]
  · have hpath : Text.Path Step.width stride (Inside stack) (.string d false :: stack)
        (d.text.reverse ++ seen) (body ++ d.text) after stack := path_string inside
    rw [d.text_eq_cons, List.reverse_cons, List.append_assoc] at hpath
    rw [d.text_eq_cons]
    exact hpath

/-- A raw string is read as one literal, if what it contains is read inside it. -/
theorem read_rawString {letter : Char} (hletter : letter = 'r' ∨ letter = 'R')
    (alone : seen.head?.any isIdentifierChar = false)
    (inside : Form.Read (.content d true) (d.text.reverse ++ letter :: seen) body (d.text ++ after))
    (hthird : d.triple = false → ¬ [d.quote.char, d.quote.char] <+: body ++ (d.text ++ after)) :
    Form.Read .literal seen (letter :: (d.text ++ (body ++ d.text))) after := by
  intro stack hcode
  refine ⟨letter, d.text, body ++ d.text, .string d true, rfl, ?_, path_string inside⟩
  refine step_opening hcode ?_
  rw [d.text_eq_cons, List.cons_append, opening?_raw d.quote _ hletter alone, ← d.text_eq_cons,
    List.append_assoc, openString_eq true hthird, Delimiter.length_text]

/-- A plain character in a block comment is read there, before what follows it. -/
theorem read_commentChar (plain : PlainInComment c (body ++ after))
    (more : Form.Read .comment (c :: seen) body after) :
    Form.Read .comment seen (c :: body) after := by
  intro depth outer
  exact .cons_one (inside_of_step plain.step_eq) plain.step_eq rfl (more depth outer)

/-- A block comment in a block comment is read there, before what follows it. -/
theorem read_commentNested
    (inside : Form.Read .comment ('*' :: '/' :: seen) inner ('*' :: '/' :: (body ++ after)))
    (more : Form.Read .comment ('/' :: '*' :: (inner.reverse ++ '*' :: '/' :: seen)) body after) :
    Form.Read .comment seen ('/' :: '*' :: (inner ++ '*' :: '/' :: body)) after := by
  intro depth outer
  have hopen : step (.blockComment (depth + 1) :: outer) seen.head? '/'
      ('*' :: (inner ++ '*' :: '/' :: body ++ after)) =
        (.consumed 2, .blockComment (depth + 2) :: outer) := step_commentOpen _
  have hclose : step (.blockComment (depth + 2) :: outer)
      (inner.reverse ++ '*' :: '/' :: seen).head? '*' ('/' :: (body ++ after)) =
        (.consumed 2, .blockComment (depth + 1) :: outer) := step_commentClose _
  refine .cons_two (inside_of_step hopen) hopen rfl (Text.Path.trans (inside (depth + 1) outer) ?_)
  exact .cons_two (inside_of_step hclose) hclose rfl (more depth outer)

/-- A plain character in a string is read there, before what follows it. -/
theorem read_contentChar (plain : PlainInString d raw c (body ++ after))
    (more : Form.Read (.content d raw) (c :: seen) body after) :
    Form.Read (.content d raw) seen (c :: body) after := by
  intro outer
  exact .cons_one (inside_of_step plain.step_eq) plain.step_eq rfl (more outer)

/-- An escape in a string is read there, before what follows it. -/
theorem read_escape (more : Form.Read (.content d false) (c :: '\\' :: seen) body after) :
    Form.Read (.content d false) seen ('\\' :: c :: body) after := by
  intro outer
  exact .cons_two (inside_of_step (step_escape d c)) (step_escape d c) rfl (more outer)

/-- An interpolation in a string is read there, before what follows it. -/
theorem read_interpolation
    (inside : Form.Read .code ('{' :: '$' :: seen) inner ('}' :: (body ++ after)))
    (more : Form.Read (.content d false) ('}' :: (inner.reverse ++ '{' :: '$' :: seen)) body
      after) :
    Form.Read (.content d false) seen ('$' :: '{' :: (inner ++ '}' :: body)) after := by
  intro outer
  have hclose : step (.interpolation 0 :: .string d false :: outer)
      (inner.reverse ++ '{' :: '$' :: seen).head? '}' (body ++ after) =
        (.consumed 1, .string d false :: outer) := step_code (opening?_brace (.inr rfl))
  -- Inside the interpolation the string is open as well, which is more than is asked for.
  have houter : outer.length ≤ (Context.string d false :: outer).length := by simp
  refine .cons_two (inside_of_step (step_interpolation d)) (step_interpolation d) rfl
    (Text.Path.trans ((inside 0 _).mono (Inside.mono houter)) ?_)
  exact .cons_one (Inside.mono houter _ _ _ _ (inside_of_step hclose)) hclose rfl (more outer)

/-- A plain character in the code of an interpolation is read there, before what follows it. -/
theorem read_codeChar (notOpen : c ≠ '{') (notClose : c ≠ '}')
    (plain : PlainInCode seen.head? c (body ++ after))
    (more : Form.Read .code (c :: seen) body after) : Form.Read .code seen (c :: body) after := by
  intro braces outer
  have hstep : step (.interpolation braces :: outer) seen.head? c (body ++ after) =
      (.consumed 1, .interpolation braces :: outer) := by
    simp [step_code plain.opening?_eq_none, braceStep, notOpen, notClose]
  exact .cons_one (inside_of_step hstep) hstep rfl (more braces outer)

/-- A pair of braces in the code of an interpolation is read there, before what follows it. -/
theorem read_braces (inside : Form.Read .code ('{' :: seen) inner ('}' :: (body ++ after)))
    (more : Form.Read .code ('}' :: (inner.reverse ++ '{' :: seen)) body after) :
    Form.Read .code seen ('{' :: (inner ++ '}' :: body)) after := by
  intro braces outer
  have hopen : step (.interpolation braces :: outer) seen.head? '{'
      (inner ++ '}' :: body ++ after) = (.consumed 1, .interpolation (braces + 1) :: outer) :=
    step_code (opening?_brace (.inl rfl))
  have hclose : step (.interpolation (braces + 1) :: outer) (inner.reverse ++ '{' :: seen).head?
      '}' (body ++ after) = (.consumed 1, .interpolation braces :: outer) :=
    step_code (opening?_brace (.inr rfl))
  refine .cons_one (inside_of_step hopen) hopen rfl (Text.Path.trans (inside (braces + 1) outer) ?_)
  exact .cons_one (inside_of_step hclose) hclose rfl (more braces outer)

/-- A literal is read by steps that are all inside what it stands in. -/
theorem ReadsLiteral.path {context : Context} {literal : Text}
    (h : ReadsLiteral (context :: outer) seen literal after) :
    Text.Path Step.width stride (Inside outer) (context :: outer) seen literal after
      (context :: outer) := by
  obtain ⟨c, more, body, opened, rfl, hstep, hbody⟩ := h
  exact .cons more (inside_of_step hstep) hstep rfl (hbody.mono (Inside.mono (by simp)))

/-- A literal in the code of an interpolation is read there, before what follows it. -/
theorem read_nested {literal : Text} (inside : Form.Read .literal seen literal (body ++ after))
    (more : Form.Read .code (literal.reverse ++ seen) body after) :
    Form.Read .code seen (literal ++ body) after := by
  intro braces outer
  exact Text.Path.trans (inside _ (.inr ⟨braces, outer, rfl⟩)).path (more braces outer)

/-- Every text that the grammar derives is read in its form, after any text that ends in the
character before it. -/
theorem Stands.read {form : Form} {t : Text} (h : Stands form before t after) :
    ∀ seen, seen.head? = before → form.Read seen t after := by
  -- The parts of a rule stand after other characters than the whole, so `seen` stays general.
  induction h with
  | line within => exact fun seen _ => read_line within
  | block _ ih => exact fun seen _ => read_block (ih _ rfl)
  | string inside empty ih =>
    intro seen _
    refine read_string (ih _ ?_) (not_third_quote inside empty)
    rw [Delimiter.reverse_text, Delimiter.head?_text_append]
  | rawString hletter alone inside empty ih =>
    rintro seen rfl
    refine read_rawString hletter alone (ih _ ?_) (not_third_quote inside empty)
    rw [Delimiter.reverse_text, Delimiter.head?_text_append]
  | commentEnd => exact fun seen _ depth outer => .stay
  | commentChar plain _ ih => exact fun seen _ => read_commentChar plain (ih _ rfl)
  | commentNested _ _ ihInside ihMore =>
    exact fun seen _ => read_commentNested (ihInside _ rfl) (ihMore _ rfl)
  | contentEnd => exact fun seen _ outer => .stay
  | contentChar plain _ ih => exact fun seen _ => read_contentChar plain (ih _ rfl)
  | escape _ ih => exact fun seen _ => read_escape (ih _ rfl)
  | interpolation _ _ ihInside ihMore =>
    exact fun seen _ => read_interpolation (ihInside _ rfl) (ihMore _ rfl)
  | codeEnd => exact fun seen _ braces outer => .stay
  | codeChar notOpen notClose plain _ ih =>
    rintro seen rfl
    exact read_codeChar notOpen notClose plain (ih _ rfl)
  | braces _ _ ihInside ihMore => exact fun seen _ => read_braces (ihInside _ rfl) (ihMore _ rfl)
  | nested inside _ ihInside ihMore =>
    rintro seen rfl
    -- A literal is not empty, so the character before the rest is its last one.
    refine read_nested (ihInside _ rfl) (ihMore _ ?_)
    obtain ⟨c, more, body, -, rfl, -⟩ := ihInside seen rfl [] (.inl rfl)
    simp [List.head?_append, List.getLast?_cons]

/-- No step of a walk that reads a literal finds code. -/
theorem ReadsLiteral.path_consumed {stack : Stack} {literal : Text}
    (h : ReadsLiteral stack seen literal after) :
    Text.Path Step.width stride (fun stack seen c rest => (stride stack seen c rest).1 ≠ .code)
      stack seen literal after stack := by
  obtain ⟨c, more, body, opened, rfl, hstep, hbody⟩ := h
  refine .cons more ?_ hstep rfl (hbody.mono fun _ _ _ _ hinside => hinside.1)
  rw [show stride stack seen c (more ++ (body ++ after)) = _ from hstep]
  exact fun hcode => by cases hcode

/-- Wherever a walk stops at code, it reads a literal that stands there as one literal: its first
step opens a context, every further one is inside, none finds code, and the walk stops right after
the literal with the contexts that were open before it. -/
theorem literal_read {a literal after : Text} {stack : Stack}
    (arrives : Text.Path Step.width stride anyStep [] [] a (literal ++ after) stack)
    (hcode : HoldsCode stack) (stands : Stands .literal a.getLast? literal after) :
    ReadsLiteral stack a.reverse literal after ∧
      Text.Path Step.width stride anyStep [] [] (a ++ literal) after stack ∧
      ∀ v ∈ visits (a ++ (literal ++ after)), a.length ≤ v.position →
        v.position < a.length + literal.length → v.answer ≠ .code := by
  have hread := stands.read a.reverse List.head?_reverse stack hcode
  refine ⟨hread, arrives.trans ?_, ?_⟩
  · rw [List.append_nil]
    exact hread.path_consumed.mono fun _ _ _ _ _ => trivial
  · intro v hv hfrom hto
    obtain ⟨earlier, hvisits, hearlier⟩ :=
      arrives.stops_eq (fun _ => True) (fun _ _ _ _ _ => trivial) 0
    obtain ⟨on, hstops, hon⟩ := hread.path_consumed.stops_eq (fun answer => answer ≠ .code)
      (fun _ _ _ _ h => h) (0 + a.length)
    -- The visits are those before the literal, those on it and those after it.
    rw [List.append_nil, hstops, Nat.zero_add] at hvisits
    rw [Nat.zero_add] at hon
    rw [visits, hvisits, List.mem_append, List.mem_append] at hv
    rcases hv with hv | hv | hv
    · have hbefore := (hearlier v hv).1
      omega
    · exact (hon v hv).2
    · have hafter := Text.le_position_of_mem_stops hv
      omega

/-- A string that holds an interpolation with a pair of braces around a raw string that holds a
brace. -/
def bracesString : Text :=
  ['\x27', '$', '{', '{', 'r', '\x22', '}', '\x22', '}', '}', '\x27']

/-- A string with a brace string in its interpolation is read as one literal, between an equals sign
and a semicolon. -/
theorem literal_read_bracesString :
    Stands .literal (some '=') bracesString [';'] ∧
      ReadsLiteral [] ['='] bracesString [';'] ∧
      Text.Path Step.width stride anyStep [] [] ('=' :: bracesString) [';'] [] ∧
      ∀ v ∈ visits ('=' :: (bracesString ++ [';'])), 1 ≤ v.position → v.position < 1 + 11 →
        v.answer ≠ .code := by
  have hraw : Stands .literal (some '{') ['r', '\x22', '}', '\x22'] ['}', '}', '\x27', ';'] :=
    @Stands.rawString (some '{') 'r' ⟨.double, false⟩ ['}'] _ (.inl rfl) rfl
      (.contentChar (by unfold PlainInString; decide) .contentEnd) nofun
  have hbraces : Stands .code (some '{') ['{', 'r', '\x22', '}', '\x22', '}'] ['}', '\x27', ';'] :=
    @Stands.braces _ ['r', '\x22', '}', '\x22'] [] _
      (@Stands.nested _ ['r', '\x22', '}', '\x22'] [] _ hraw .codeEnd) .codeEnd
  have hstring : Stands .literal (some '=') bracesString [';'] :=
    @Stands.string _ ⟨.single, false⟩ ['$', '{', '{', 'r', '\x22', '}', '\x22', '}', '}'] _
      (@Stands.interpolation _ _ ['{', 'r', '\x22', '}', '\x22', '}'] [] _ hbraces .contentEnd)
      nofun
  have harrives : Text.Path Step.width stride anyStep [] [] ['='] (bracesString ++ [';']) [] :=
    .cons_one trivial rfl rfl .stay
  exact ⟨hstring, literal_read harrives (.inl rfl) hstring⟩

end MemberOutline.Literal
