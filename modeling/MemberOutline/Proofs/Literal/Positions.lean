import MemberOutline.Proofs.Literal.Reach
import MemberOutline.Proofs.Text.Positions

/-!
# Literal steps by positions

The step at a position of a text, with the characters around it read by their positions
(`ByPosition.step`). It asks for the characters that the step between two texts looks at, and at
every position inside the text it finds them all: it does not fail and answers the same
(`ByPosition.step_eq`). A step covers one to four characters (`width_step_range`), so a loop of such
steps comes through every text (`ByPosition.exists_run`).
-/

namespace MemberOutline.Literal

open Text (charAt slice isIdentifierChar)

variable {before : Option Char} {c : Char} {rest : Text}

/-! ## Widths -/

/-- A delimiter has one character or three. -/
theorem Delimiter.width_le (d : Delimiter) : d.width ≤ 3 := by
  unfold Delimiter.width
  split_ifs <;> decide

/-- What opens a literal has one to four characters. -/
theorem width_opening?_range {o : Context × Nat} (ho : o ∈ opening? before c rest) :
    1 ≤ o.2 ∧ o.2 ≤ 4 := by
  have hstring (d : Delimiter) : 1 ≤ d.width ∧ d.width ≤ 3 := ⟨d.width_pos, d.width_le⟩
  cases opening?_eq_some_iff.1 ho with
  | line | block => decide
  | quote q => exact ⟨(hstring _).1, Nat.le_succ_of_le (hstring _).2⟩
  | raw q => exact ⟨Nat.le_add_left 1 _, Nat.succ_le_succ (hstring _).2⟩

/-- A step covers one to four characters. -/
theorem width_step_range (stack : Stack) (before : Option Char) (c : Char) (rest : Text) :
    1 ≤ (step stack before c rest).1.width ∧ (step stack before c rest).1.width ≤ 4 := by
  have hone : 1 ≤ 1 ∧ 1 ≤ 4 := by decide
  have htwo : 1 ≤ 2 ∧ 2 ≤ 4 := by decide
  match stack with
  | [] | .interpolation _ :: _ =>
    cases ho : opening? before c rest with
    | some o =>
      simp only [step, ho]
      exact width_opening?_range ho
    | none =>
      simp only [step, ho]
      exact hone
  | .lineComment :: outer => exact hone
  | .blockComment depth :: outer =>
    simp only [step, commentStep]
    split_ifs
    · exact htwo
    · exact htwo
    · exact htwo
    · exact hone
  | .string d raw :: outer =>
    simp only [step, stringStep]
    split_ifs
    · exact htwo
    · exact htwo
    · exact ⟨d.width_pos, Nat.le_succ_of_le d.width_le⟩
    · exact hone
    · exact hone

/-- A loop ends at the end of the text or, if the last character begins an escape in a string that
is not raw and still open, one position after it. -/
def EndsWithin (t : Text) (stack : Stack) (last : Nat) : Prop :=
  last = t.length ∨ last = t.length + 1 ∧ ∃ c ∈ t.getLast?, EscapesIn c stack

namespace ByPosition

/-! ## The step by positions -/

/-- Whether a character is repeated from a position on. Where fewer characters are left it is not,
and none of them is read. -/
def repeats (t : Text) (i : Nat) (c : Char) (count : Nat) : Except Nat Bool :=
  if i + count ≤ t.length then do
    let stretch ← slice t i (i + count)
    return stretch.all (· = c)
  else return false

/-- Whether a letter at a position can begin a raw string: a quote comes next, and the character
before belongs to no identifier. -/
def rawLetter (t : Text) (i : Nat) : Except Nat Bool := do
  let quoted := t[i + 1]?.any fun d => (Quote.ofChar? d).isSome
  let apart ←
    if i = 0 then pure true
    else do
      let d ← charAt t (i - 1)
      pure !isIdentifierChar d
  return quoted && apart

/-- The string that opens at a position with its first quote at another one. -/
def openString (t : Text) (i quoteAt : Nat) (raw : Bool) : Except Nat (Context × Nat) := do
  let c ← charAt t quoteAt
  let triple ← repeats t quoteAt c 3
  let quote : Quote := if c = '\x27' then .single else .double
  return (.string ⟨quote, triple⟩ raw, quoteAt - i + if triple then 3 else 1)

/-- The context that opens at a position, with the width of its opening. -/
def opening? (t : Text) (i : Nat) : Except Nat (Option (Context × Nat)) := do
  let c ← charAt t i
  let next := t[i + 1]?
  if c = '/' ∧ next = some '/' then return some (.lineComment, 2)
  else if c = '/' ∧ next = some '*' then return some (.blockComment 1, 2)
  else if (Quote.ofChar? c).isSome then some <$> openString t i i false
  else if c = 'r' ∨ c = 'R' then do
    let raw ← rawLetter t i
    if raw then some <$> openString t i (i + 1) true else return none
  else return none

/-- Whether a delimiter stands at a position with this character. It is looked for only at its
quote. -/
def closes (t : Text) (i : Nat) (c : Char) (d : Delimiter) : Except Nat Bool :=
  if c = d.quote.char then repeats t i d.quote.char d.width else .ok false

/-- The step through the literals at a position. In a block comment it asks for no more than the
next character. -/
def step (t : Text) (stack : Stack) (i : Nat) : Except Nat (Step × Stack) := do
  let c ← charAt t i
  let next := t[i + 1]?
  match stack with
  | [] =>
    match ← opening? t i with
    | some (context, width) => return (.consumed width, [context])
    | none => return (.code, [])
  | .interpolation braces :: outer =>
    match ← opening? t i with
    | some (context, width) => return (.consumed width, context :: stack)
    | none => return (.consumed 1, braceStep c braces outer)
  | .lineComment :: outer => return (.consumed 1, if c = '\n' then outer else stack)
  | .blockComment depth :: outer => return commentStep depth c next.toList outer
  | .string d raw :: outer =>
    if !raw && c = '\\' then return (.consumed 2, stack)
    else if !raw && c = '$' && next = some '{' then return (.consumed 2, .interpolation 0 :: stack)
    else do
      let atDelimiter ← closes t i c d
      if atDelimiter then return (.consumed d.width, outer)
      else if !d.triple && c = '\n' then return (.consumed 1, outer)
      else return (.consumed 1, stack)

/-! ## It reads inside the text -/

/-- A run of one character is found where it begins the rest of the text. -/
theorem repeats_eq (a b : Text) (c : Char) (count : Nat) :
    repeats (a ++ b) a.length c count = .ok ((List.replicate count c).isPrefixOf b) := by
  unfold repeats
  split_ifs with hinside
  · have hcount : count ≤ b.length := by
      rw [List.length_append] at hinside
      omega
    have hstretch : ((a ++ b).take (a.length + count)).drop a.length = b.take count := by
      rw [List.take_length_add_append, List.drop_left]
    rw [Text.slice_eq (Nat.le_add_right _ _) hinside, hstretch, Text.ok_bind]
    have hall : (b.take count).all (· = c) = (List.replicate count c).isPrefixOf b := by
      rw [Bool.eq_iff_iff, List.isPrefixOf_iff_prefix, List.prefix_iff_eq_take,
        List.length_replicate, eq_comm (a := List.replicate count c), List.eq_replicate_iff]
      simp [hcount]
    exact congrArg Except.ok hall
  · have hnot : (List.replicate count c).isPrefixOf b = false := by
      rw [Bool.eq_false_iff, Ne, List.isPrefixOf_iff_prefix]
      intro hprefix
      have hlength := hprefix.length_le
      rw [List.length_replicate] at hlength
      rw [List.length_append] at hinside
      omega
    rw [hnot]
    rfl

/-- The letter of a raw string is told by the characters on both sides. -/
theorem rawLetter_eq (a : Text) (c : Char) (b : Text) :
    rawLetter (a ++ c :: b) a.length =
      .ok ((b.head?.any fun d => (Quote.ofChar? d).isSome) &&
        !a.getLast?.any isIdentifierChar) := by
  unfold rawLetter
  rw [Text.getElem?_append_succ]
  rcases List.eq_nil_or_concat a with rfl | ⟨front, d, rfl⟩
  · rfl
  · rw [List.concat_eq_append, if_neg (by simp), Text.charAt_before, List.getLast?_concat]
    rfl

/-- A string opens as it does between two texts. -/
theorem openString_eq (a more : Text) (q : Quote) (raw : Bool) (rest : Text) :
    openString (a ++ (more ++ q.char :: rest)) a.length (a.length + more.length) raw =
      .ok ((Literal.openString q raw rest).1,
        more.length + (Literal.openString q raw rest).2) := by
  have htext : a ++ (more ++ q.char :: rest) = (a ++ more) ++ q.char :: rest := by simp
  have hquote : (if q.char = '\x27' then Quote.single else .double) = q := by
    cases q <;> decide
  have htriple : (List.replicate 3 q.char).isPrefixOf (q.char :: rest) =
      [q.char, q.char].isPrefixOf rest := by
    rw [List.replicate_succ, List.isPrefixOf_cons_cons, beq_self_eq_true, Bool.true_and]
    rfl
  unfold openString
  rw [htext, ← List.length_append, Text.charAt_append, Text.ok_bind, repeats_eq, htriple,
    Text.ok_bind, hquote, List.length_append, Nat.add_sub_cancel_left]
  rfl

/-- A literal opens as it does between two texts. -/
theorem opening?_eq (a : Text) (c : Char) (b : Text) :
    opening? (a ++ c :: b) a.length = .ok (Literal.opening? a.getLast? c b) := by
  unfold opening? Literal.opening?
  rw [Text.charAt_append, Text.ok_bind, Text.getElem?_append_succ]
  by_cases hline : c = '/' ∧ b.head? = some '/'
  · rw [if_pos hline, if_pos hline]
    rfl
  rw [if_neg hline, if_neg hline]
  by_cases hblock : c = '/' ∧ b.head? = some '*'
  · rw [if_pos hblock, if_pos hblock]
    rfl
  rw [if_neg hblock, if_neg hblock]
  cases hq : Quote.ofChar? c with
  | some q =>
    obtain rfl := Quote.ofChar?_eq_some_iff.1 hq
    have hopens := openString_eq a [] q false b
    rw [List.nil_append, List.length_nil, Nat.add_zero, Nat.zero_add] at hopens
    rw [if_pos Option.isSome_some, hopens]
    rfl
  | none =>
    rw [if_neg (by simp), rawLetter_eq]
    simp only [Text.ok_bind]
    by_cases hletter : c = 'r' ∨ c = 'R'
    · rw [if_pos hletter]
      cases hbefore : a.getLast?.any isIdentifierChar with
      | true => simp [pure, Except.pure]
      | false =>
        cases b with
        | nil => simp [hletter, pure, Except.pure]
        | cons d more =>
          cases hd : Quote.ofChar? d with
          | none => simp [hletter, hd, pure, Except.pure]
          | some q =>
            -- The string opens after the letter.
            obtain rfl := Quote.ofChar?_eq_some_iff.1 hd
            have hopens := openString_eq a [c] q true more
            simp only [List.singleton_append, List.length_singleton] at hopens
            simp [hletter, hopens, Nat.add_comm 1, Functor.map, Except.map]
    · rw [if_neg hletter, if_neg fun h => hletter h.1]
      rfl

/-- A delimiter stands where it begins the rest of the text. -/
theorem closes_eq (a : Text) (c : Char) (b : Text) (d : Delimiter) :
    closes (a ++ c :: b) a.length c d = .ok (d.text.isPrefixOf (c :: b)) := by
  unfold closes
  split_ifs with hc
  · exact repeats_eq a (c :: b) d.quote.char d.width
  · rw [d.text_eq_cons, List.isPrefixOf_cons_cons, beq_eq_false_iff_ne.2 (Ne.symm hc),
      Bool.false_and]

/-- Inside a text the step does not fail, and it is the step between the text before and the text
after the position. -/
theorem step_eq (a : Text) (stack : Stack) (c : Char) (b : Text) :
    step (a ++ c :: b) stack a.length = .ok (Literal.step stack a.getLast? c b) := by
  unfold step
  rw [Text.charAt_append, Text.ok_bind, Text.getElem?_append_succ]
  match stack with
  | [] =>
    simp only [opening?_eq, Text.ok_bind, Literal.step]
    cases Literal.opening? a.getLast? c b <;> rfl
  | .interpolation braces :: outer =>
    simp only [opening?_eq, Text.ok_bind, Literal.step]
    cases Literal.opening? a.getLast? c b <;> rfl
  | .lineComment :: outer => rfl
  | .blockComment depth :: outer =>
    -- Of the rest only the next character counts.
    cases b <;> rfl
  | .string d raw :: outer =>
    simp only [closes_eq, Text.ok_bind, Literal.step, stringStep]
    split_ifs <;> rfl

/-! ## The loop -/

/-- Inside a text the step does not fail, and it is the stride of the walk. -/
theorem step_reads : Text.ReadsAs step stride := by
  intro a stack c b
  rw [step_eq, stride, List.head?_reverse]

/-- The walk through the literals of a text is a loop that reads inside the text. -/
theorem exists_run (t : Text) :
    ∃ last, Text.Run Step.width step t [] 0 (visits t) (Text.walk Step.width stride [] 0 [] t)
        last ∧
      ((visits t).map (·.position)).Pairwise (· < ·) ∧
      EndsWithin t (Text.walk Step.width stride [] 0 [] t) last := by
  have hadvances (stack : Stack) (seen : Text) (c : Char) (rest : Text) :
      1 ≤ (stride stack seen c rest).1.width := (width_step_range stack seen.head? c rest).1
  obtain ⟨last, hrun, hlast⟩ := Text.exists_run Step.width EscapesIn step_reads
    (fun stack seen c rest => width_le_or_escape_at_end stack seen.head? c rest) hadvances [] t []
  exact ⟨last, hrun, hrun.increasing step_reads hadvances, hlast⟩

/-- The escape at the second of two characters covers one that is not there. -/
example : visits "\x27\\".toList =
    [⟨0, .consumed 1, [.string ⟨.single, false⟩ false]⟩,
      ⟨1, .consumed 2, [.string ⟨.single, false⟩ false]⟩] := by
  decide

end ByPosition

end MemberOutline.Literal
