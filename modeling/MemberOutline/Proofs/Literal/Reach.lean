import MemberOutline.Proofs.Literal.Opening

/-!
# What a step can see

How far a step looks in both directions. A step that ends within a stretch of text is the same
whatever `Inert` text follows the stretch (`step_before_inert`): what it finds beyond the characters
it covers can only be that they do not go on. Of the characters before it only counts whether the
nearest belongs to an identifier (`step_of_before`), and the step that leaves the last literal ends
in a character that does not (`step_ends_outside`).
-/

namespace MemberOutline.Literal

open Text (isIdentifierChar)

/-! ## Looking ahead -/

/-- The characters that a step may look for beyond those it covers. -/
def lookahead : Text := ['/', '*', '{', '\x27', '\x22', '=', '>']

/-- A text that no step before it asks about: it is empty or begins with a character that no step
looks for. -/
def Inert (rest : Text) : Prop := ∀ c ∈ rest.head?, c ∉ lookahead

/-- A text is inert if its first character is none that a step looks for. -/
theorem inert_cons {c : Char} (hc : c ∉ lookahead) (rest : Text) : Inert (c :: rest) := by
  intro d hd
  obtain rfl : c = d := by simpa using hd
  exact hc

/-- An inert text begins with no character that a step looks for. -/
theorem Inert.head?_ne {rest : Text} (h : Inert rest) {c : Char} (hc : c ∈ lookahead) :
    rest.head? ≠ some c :=
  fun hhead => h c hhead hc

/-- Quotes are among the characters that a step looks for. -/
theorem Quote.char_mem_lookahead (q : Quote) : q.char ∈ lookahead := by
  cases q <;> decide

variable {within rest rest' : Text}

/-- A character looked for is found in both texts or in neither, if it lies within their common
stretch. -/
theorem head?_before_inert (hinert : Inert rest') {c : Char} (hc : c ∈ lookahead)
    (hreach : (within ++ rest).head? = some c → within ≠ []) :
    (within ++ rest').head? = some c ↔ (within ++ rest).head? = some c := by
  cases within with
  | nil =>
    constructor
    · exact fun h => absurd h (hinert.head?_ne hc)
    · exact fun h => absurd rfl (hreach h)
  | cons d within => rfl

/-- A run of characters begins a text or not, whatever follows the text, if what follows does not
begin with one of them. -/
theorem isPrefixOf_append_of_head? {run more : Text} (hmore : ∀ c ∈ more.head?, c ∉ run)
    (t : Text) : run.isPrefixOf (t ++ more) = run.isPrefixOf t := by
  induction run generalizing t with
  | nil => simp
  | cons c run ih =>
    have hrun : ∀ d ∈ more.head?, d ∉ run :=
      fun d hd hmem => hmore d hd (List.mem_cons_of_mem c hmem)
    cases t with
    | cons d t =>
      rw [List.cons_append, List.isPrefixOf_cons_cons, List.isPrefixOf_cons_cons, ih hrun]
    | nil =>
      cases more with
      | nil => rfl
      | cons d more =>
        have hne : c ≠ d := by
          rintro rfl
          exact hmore c rfl List.mem_cons_self
        rw [List.nil_append, List.isPrefixOf_cons_cons, beq_eq_false_iff_ne.2 hne, Bool.false_and]
        rfl

/-- A run of characters that are all looked for is found in both texts or in neither, if it lies
within their common stretch. -/
theorem isPrefixOf_before_inert (hinert : Inert rest') {run : Text}
    (hrun : ∀ c ∈ run, c ∈ lookahead)
    (hreach : run.isPrefixOf (within ++ rest) → run.length ≤ within.length) :
    run.isPrefixOf (within ++ rest') = run.isPrefixOf (within ++ rest) := by
  have hhead : ∀ c ∈ rest'.head?, c ∉ run := fun c hc hmem => hinert c hc (hrun c hmem)
  have hstretch : within <+: within ++ rest := List.prefix_append within rest
  rw [isPrefixOf_append_of_head? hhead, Bool.eq_iff_iff, List.isPrefixOf_iff_prefix,
    List.isPrefixOf_iff_prefix]
  constructor
  · exact fun h => h.trans hstretch
  · intro h
    exact List.prefix_of_prefix_length_le h hstretch (hreach (List.isPrefixOf_iff_prefix.2 h))

/-- A string that opens within a stretch of text is the same before any inert text. -/
theorem openString_before_inert (hinert : Inert rest') (q : Quote) (raw : Bool)
    (hreach : (openString q raw (within ++ rest)).2 ≤ within.length + 1) :
    openString q raw (within ++ rest') = openString q raw (within ++ rest) := by
  have hrun : ∀ c ∈ [q.char, q.char], c ∈ lookahead := by
    intro c hc
    rw [List.mem_pair, or_self] at hc
    exact hc ▸ q.char_mem_lookahead
  have heq : [q.char, q.char].isPrefixOf (within ++ rest') =
      [q.char, q.char].isPrefixOf (within ++ rest) := by
    refine isPrefixOf_before_inert hinert hrun fun h => ?_
    simp only [openString, Delimiter.width, h, if_true] at hreach
    simpa using hreach
  simp only [openString, heq]

/-- A literal that opens within a stretch of text does so before any inert text, and where none
opens within it, none does. -/
theorem opening?_before_inert (hinert : Inert rest') {before : Option Char} {c : Char}
    (hreach : ∀ o ∈ opening? before c (within ++ rest), o.2 ≤ within.length + 1) :
    opening? before c (within ++ rest') = opening? before c (within ++ rest) := by
  cases hq : Quote.ofChar? c with
  | some q =>
    obtain rfl := Quote.ofChar?_eq_some_iff.1 hq
    rw [opening?_quote] at hreach ⊢
    rw [opening?_quote, openString_before_inert hinert q false (hreach _ rfl)]
  | none =>
    cases within with
    | nil =>
      -- Every opening but a quote covers two characters or more.
      have hnone : opening? before c rest = none := by
        rw [List.nil_append] at hreach
        rw [Option.eq_none_iff_forall_not_mem]
        intro o ho
        have hleast := two_le_of_opening? hq ho
        have hmost := hreach o ho
        simp only [List.length_nil] at hmost
        omega
      rw [List.nil_append, List.nil_append, hnone, opening?_eq_none_iff]
      refine ⟨hq, ?_, ?_⟩
      · rintro ⟨-, h | h⟩
        · exact hinert.head?_ne (by decide) h
        · exact hinert.head?_ne (by decide) h
      · rintro ⟨-, -, h⟩
        obtain ⟨q, hq⟩ := Option.isSome_iff_exists.1 h
        obtain ⟨d, hd, hdq⟩ := Option.bind_eq_some_iff.1 hq
        obtain rfl := Quote.ofChar?_eq_some_iff.1 hdq
        exact hinert.head?_ne q.char_mem_lookahead hd
    | cons d within =>
      -- The next character is within the stretch; only a raw string looks further.
      rw [List.cons_append] at hreach ⊢
      unfold opening? at hreach ⊢
      rw [hq] at hreach ⊢
      simp only [List.cons_append, List.head?_cons] at hreach ⊢
      split_ifs at hreach ⊢ with h1 h2 h3
      · rfl
      · rfl
      · cases hd : Quote.ofChar? d with
        | none => rfl
        | some q =>
          have hwidth := hreach _ (by rw [hd]; rfl)
          simp only [List.length_cons] at hwidth
          simp only [Option.map_some,
            openString_before_inert hinert q true (Nat.add_le_add_iff_right.1 hwidth)]
      · rfl

/-- A step in a string that ends within a stretch of text is the same before any inert text. -/
theorem stringStep_before_inert (hinert : Inert rest') (d : Delimiter) (raw : Bool) (c : Char)
    (outer : Stack)
    (hreach : (stringStep d raw c (within ++ rest) outer).1.width ≤ within.length + 1) :
    stringStep d raw c (within ++ rest') outer = stringStep d raw c (within ++ rest) outer := by
  by_cases hescape : (!raw && decide (c = '\\')) = true
  · simp only [stringStep, hescape, if_true]
  have hopens : (!raw && decide (c = '$') && decide ((within ++ rest').head? = some '{')) =
      (!raw && decide (c = '$') && decide ((within ++ rest).head? = some '{')) := by
    cases hdollar : !raw && decide (c = '$') with
    | false => rfl
    | true =>
      rw [decide_eq_decide.2 (head?_before_inert hinert (by decide) ?_)]
      rintro h rfl
      rw [List.nil_append] at h
      simp [stringStep, hescape, hdollar, h, Step.width] at hreach
  -- A dollar at the end of the stretch opens nothing, as the brace would lie beyond it.
  by_cases hopen : (!raw && decide (c = '$') && decide ((within ++ rest).head? = some '{')) = true
  · simp only [stringStep, hescape, hopens, hopen, if_true]
  have hcloses : d.text.isPrefixOf (c :: (within ++ rest')) =
      d.text.isPrefixOf (c :: (within ++ rest)) := by
    rw [← List.cons_append, ← List.cons_append]
    refine isPrefixOf_before_inert hinert ?_ ?_
    · intro x hx
      rw [List.eq_of_mem_replicate hx]
      exact d.quote.char_mem_lookahead
    · intro h
      rw [List.cons_append] at h
      simp only [stringStep, hescape, hopen, h, if_true, Step.width] at hreach
      rw [Delimiter.length_text, List.length_cons]
      exact hreach
  simp only [stringStep, hescape, hopens, hopen, hcloses]

/-- A step in a block comment that ends within a stretch of text is the same before any inert
text. -/
theorem commentStep_before_inert (hinert : Inert rest') (depth : Nat) (c : Char) (outer : Stack)
    (hreach : (commentStep depth c (within ++ rest) outer).1.width ≤ within.length + 1) :
    commentStep depth c (within ++ rest') outer = commentStep depth c (within ++ rest) outer := by
  -- A sign of two characters lies within the stretch as a whole, or there is none.
  have hopen : c = '/' ∧ (within ++ rest').head? = some '*' ↔
      c = '/' ∧ (within ++ rest).head? = some '*' := by
    refine and_congr_right fun hc => head?_before_inert hinert (by decide) ?_
    rintro h rfl
    rw [List.nil_append] at h
    simp [commentStep, hc, h, Step.width] at hreach
  have hclose : c = '*' ∧ (within ++ rest').head? = some '/' ↔
      c = '*' ∧ (within ++ rest).head? = some '/' := by
    refine and_congr_right fun hc => head?_before_inert hinert (by decide) ?_
    rintro h rfl
    rw [List.nil_append] at h
    simp [commentStep, hc, h, Step.width] at hreach
  simp only [commentStep, hopen, hclose]

/-- A step that ends within a stretch of text is the same before any inert text. -/
theorem step_before_inert (hinert : Inert rest') (stack : Stack) (before : Option Char) (c : Char)
    (hreach : (step stack before c (within ++ rest)).1.width ≤ within.length + 1) :
    step stack before c (within ++ rest') = step stack before c (within ++ rest) := by
  have hopening (h : ∀ o ∈ opening? before c (within ++ rest), o.2 ≤ within.length + 1) :=
    opening?_before_inert hinert h
  match stack with
  | [] | .interpolation _ :: _ =>
    have heq := hopening fun o ho => by
      simp only [step, Option.mem_def.1 ho] at hreach
      exact hreach
    simp only [step, heq]
  | .lineComment :: outer => rfl
  | .blockComment depth :: outer => exact commentStep_before_inert hinert depth c outer hreach
  | .string d raw :: outer => exact stringStep_before_inert hinert d raw c outer hreach

/-! ## Where the text ends -/

/-- The delimiter of a string that opens lies within the text. -/
theorem width_openString_le (q : Quote) (raw : Bool) (rest : Text) :
    (openString q raw rest).2 ≤ rest.length + 1 := by
  simp only [openString, Delimiter.width]
  split_ifs with h
  · have hlength := (List.isPrefixOf_iff_prefix.1 h).length_le
    exact Nat.succ_le_succ hlength
  · exact Nat.le_add_left 1 rest.length

/-- A character that follows lies within the text. -/
theorem two_le_of_head? {rest : Text} {d : Char} (h : rest.head? = some d) :
    2 ≤ rest.length + 1 := by
  obtain ⟨more, rfl⟩ := List.head?_eq_some_iff.1 h
  exact Nat.succ_le_succ (Nat.le_add_left 1 more.length)

/-- What opens a literal lies within the text. -/
theorem width_opening?_le {before : Option Char} {c : Char} {rest : Text} {o : Context × Nat}
    (h : o ∈ opening? before c rest) : o.2 ≤ rest.length + 1 := by
  cases opening?_eq_some_iff.1 h with
  | line more | block more => exact Nat.succ_le_succ (Nat.le_add_left 1 more.length)
  | quote q => exact width_openString_le q false rest
  | raw q more => exact Nat.succ_le_succ (width_openString_le q true more)

/-- A character begins an escape in the string that is open, which is not raw. -/
def EscapesIn (c : Char) (stack : Stack) : Prop :=
  c = '\\' ∧ ∃ d outer, stack = .string d false :: outer

/-- Only an escape may ask for more characters than there are. -/
theorem width_le_or_escape (stack : Stack) (before : Option Char) (c : Char) (rest : Text) :
    (step stack before c rest).1.width ≤ rest.length + 1 ∨ EscapesIn c stack := by
  have hone : 1 ≤ rest.length + 1 := Nat.le_add_left 1 rest.length
  match stack with
  | [] | .interpolation _ :: _ =>
    left
    cases ho : opening? before c rest with
    | some o =>
      simp only [step, ho]
      exact width_opening?_le ho
    | none =>
      simp only [step, ho]
      exact hone
  | .lineComment :: outer => exact .inl hone
  | .blockComment depth :: outer =>
    left
    simp only [step, commentStep]
    split_ifs with h1 h2 h3
    · exact two_le_of_head? h1.2
    · exact two_le_of_head? h2.2
    · exact two_le_of_head? h2.2
    · exact hone
  | .string d raw :: outer =>
    simp only [step, stringStep]
    split_ifs with h1 h2 h3 h4
    · right
      obtain ⟨rfl, rfl⟩ : raw = false ∧ c = '\\' := by simpa using h1
      exact ⟨rfl, d, outer, rfl⟩
    · left
      rw [Bool.and_eq_true, decide_eq_true_eq] at h2
      exact two_le_of_head? h2.2
    · -- The whole delimiter is there.
      left
      have hlength := (List.isPrefixOf_iff_prefix.1 h3).length_le
      rwa [Delimiter.length_text] at hlength
    · exact .inl hone
    · exact .inl hone

/-- A step that asks for more characters than there are is an escape at the end of the text, and
asks for one more. -/
theorem width_le_or_escape_at_end (stack : Stack) (before : Option Char) (c : Char) (rest : Text) :
    (step stack before c rest).1.width ≤ rest.length + 1 ∨
      rest = [] ∧ (step stack before c rest).1.width = 2 ∧
        EscapesIn c (step stack before c rest).2 := by
  rcases width_le_or_escape stack before c rest with hle | ⟨rfl, d, outer, rfl⟩
  · exact .inl hle
  · cases rest with
    | nil => exact .inr ⟨rfl, rfl, rfl, d, outer, rfl⟩
    | cons e more => exact .inl (Nat.succ_le_succ (Nat.le_add_left 1 more.length))

/-- A step is the same where the text ends and where inert text follows. -/
theorem step_append_of_inert {more : Text} (hinert : Inert more) (stack : Stack)
    (before : Option Char) (c : Char) (rest : Text) :
    step stack before c (rest ++ more) = step stack before c rest := by
  rcases width_le_or_escape stack before c rest with hle | ⟨rfl, d, outer, rfl⟩
  · have hnil : step stack before c (rest ++ more) = step stack before c (rest ++ []) :=
      step_before_inert hinert stack before c (by
        rw [List.append_nil]
        exact hle)
    rwa [List.append_nil] at hnil
  · -- An escape asks for one character more, whichever it is.
    rfl

/-! ## Finding code -/

/-- Code is found only where nothing is open, and leaves nothing open. -/
theorem step_eq_code {stack next : Stack} {before : Option Char} {c : Char} {rest : Text}
    (h : step stack before c rest = (.code, next)) : stack = [] ∧ next = [] := by
  match stack with
  | [] =>
    cases ho : opening? before c rest with
    | some o => simp [step, ho] at h
    | none =>
      simp only [step, ho, Prod.mk.injEq] at h
      exact ⟨rfl, h.2.symm⟩
  | .interpolation braces :: outer =>
    cases ho : opening? before c rest <;> simp [step, ho] at h
  | .lineComment :: outer => simp [step] at h
  | .blockComment depth :: outer =>
    simp only [step, commentStep] at h
    split_ifs at h <;> simp at h
  | .string d raw :: outer =>
    simp only [step, stringStep] at h
    split_ifs at h <;> simp at h

/-! ## Looking back -/

/-- Of the character before a literal only counts whether it belongs to an identifier. -/
theorem step_of_before (stack : Stack) {before before' : Option Char} (c : Char) (rest : Text)
    (h : before.any isIdentifierChar = before'.any isIdentifierChar) :
    step stack before c rest = step stack before' c rest := by
  have hopening : opening? before c rest = opening? before' c rest := by
    unfold opening?
    rw [h]
  unfold step
  rw [hopening]

/-- A character that belongs to no identifier is not the letter of a raw string either, so nothing
before it counts. -/
theorem step_of_not_identifier (stack : Stack) (before before' : Option Char) {c : Char}
    (rest : Text) (hc : isIdentifierChar c = false) :
    step stack before c rest = step stack before' c rest := by
  have hletter : ¬ (c = 'r' ∨ c = 'R') := by
    rintro (rfl | rfl)
    · exact absurd hc (by decide)
    · exact absurd hc (by decide)
  have hopening : opening? before c rest = opening? before' c rest := by
    unfold opening?
    simp only [hletter, false_and, if_false]
  unfold step
  rw [hopening]

/-- The brace that ends an interpolation outside everything is no identifier character. -/
theorem eq_of_braceStep_eq_nil {c : Char} {braces : Nat} {outer : Stack}
    (h : braceStep c braces outer = []) : c = '}' := by
  unfold braceStep at h
  split_ifs at h with h1 h2
  exact h2

/-- A closing delimiter is all that its step covers. -/
theorem cons_eq_of_closes {d : Delimiter} {c : Char} {more rest : Text}
    (hcloses : d.text.isPrefixOf (c :: (more ++ rest)))
    (covers : (more ++ rest).take (d.width - 1) = more) : c :: more = d.text := by
  have htext := List.prefix_iff_eq_take.1 (List.isPrefixOf_iff_prefix.1 hcloses)
  obtain ⟨w, hw⟩ := Nat.exists_eq_succ_of_ne_zero (Nat.pos_iff_ne_zero.1 d.width_pos)
  rw [Delimiter.length_text, hw, List.take_succ_cons] at htext
  rw [hw, Nat.succ_sub_one] at covers
  rw [htext, covers]

/-- A step in a literal that leaves nothing open ends in a character that belongs to no
identifier. -/
theorem step_ends_outside {stack : Stack} {before : Option Char} {c : Char} {more rest : Text}
    (seen : Text) (hin : (step stack before c (more ++ rest)).1 ≠ .code)
    (hout : (step stack before c (more ++ rest)).2 = [])
    (covers : (more ++ rest).take ((step stack before c (more ++ rest)).1.width - 1) = more) :
    (more.reverse ++ c :: seen).head?.any isIdentifierChar = false := by
  match stack with
  | [] =>
    cases ho : opening? before c (more ++ rest) with
    | none => simp [step, ho] at hin
    | some o => simp [step, ho] at hout
  | .interpolation braces :: outer =>
    cases ho : opening? before c (more ++ rest) with
    | some o => simp [step, ho] at hout
    | none =>
      simp only [step, ho] at hout covers
      obtain rfl : [] = more := covers
      obtain rfl := eq_of_braceStep_eq_nil hout
      exact show isIdentifierChar '}' = false by decide
  | .lineComment :: outer =>
    obtain rfl : [] = more := covers
    simp only [step] at hout
    split_ifs at hout with hc
    subst hc
    exact show isIdentifierChar '\n' = false by decide
  | .blockComment depth :: outer =>
    simp only [step, commentStep] at hout covers
    split_ifs at hout covers with h1 h2 h3
    obtain ⟨tail, htail⟩ := List.head?_eq_some_iff.1 h2.2
    rw [htail] at covers
    obtain rfl : ['/'] = more := covers
    exact show isIdentifierChar '/' = false by decide
  | .string d raw :: outer =>
    simp only [step, stringStep] at hout covers
    split_ifs at hout covers with h1 h2 h3 h4
    · -- The delimiter is a run of quotes, whichever end it is read from.
      have htext : more.reverse ++ c :: seen = d.text ++ seen := by
        rw [← d.reverse_text, ← cons_eq_of_closes h3 covers, List.reverse_cons,
          List.append_assoc, List.singleton_append]
      rw [htext, d.head?_text_append]
      exact d.quote.not_isIdentifierChar
    · obtain rfl : [] = more := covers
      obtain ⟨-, rfl⟩ : d.triple = false ∧ c = '\n' := by simpa using h4
      exact show isIdentifierChar '\n' = false by decide

/-- A part of a literal after which nothing is open does not end in a character of an identifier. -/
theorem consumed_ends_outside {stack : Stack} {before : Option Char} {c : Char} {more rest : Text}
    {width : Nat} (seen : Text)
    (consumed : step stack before c (more ++ rest) = (.consumed width, []))
    (covers : (more ++ rest).take (width - 1) = more) :
    (more.reverse ++ c :: seen).head?.any isIdentifierChar = false := by
  have hin : (step stack before c (more ++ rest)).1 ≠ .code := by
    rw [consumed]
    exact Step.noConfusion
  refine step_ends_outside seen hin ?_ ?_
  · rw [consumed]
  · rw [consumed]
    exact covers

end MemberOutline.Literal
