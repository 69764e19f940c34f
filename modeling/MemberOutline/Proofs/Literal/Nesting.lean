import MemberOutline.Literal.Step
import MemberOutline.Proofs.Literal.Opening
import Mathlib.Algebra.Group.Nat.Defs
import Mathlib.Data.List.Chain

/-!
# How the open contexts nest

Steps may be taken at any positions of any texts, one after the other with the contexts that the one
before left open. Whatever they are, the contexts nest as literals do, and no count in them is more
than the number of steps (`Nested`, `Nested.step`): a step only pushes, pops or recounts the
innermost context, and what it may push depends on what that is.

So counters of 32 bits are enough for fewer than `2 ^ 32` steps. `Words.step` is the step with such
counters. It fails where a counter would leave its range, and where a context is met that is no
code, no comment and no string; `nested_of_steps` says that none of this happens.
-/

namespace MemberOutline.Literal

/-! ## Nesting -/

/-- Whether a context is an interpolation. -/
def Context.isInterpolation : Context → Bool
  | .interpolation _ => true
  | _ => false

/-- Whether a context is a comment. -/
def Context.isComment : Context → Bool
  | .lineComment | .blockComment _ => true
  | _ => false

/-- The number that a context counts: its open comments, or its open inner braces. -/
def Context.count : Context → Nat
  | .blockComment depth => depth
  | .interpolation braces => braces
  | _ => 0

/-- What a context can stand directly above: an interpolation above a string that is not raw, and a
string or a comment above an interpolation. -/
def StandsOn : Context → Context → Prop
  | .interpolation _, below => ∃ d, below = .string d false
  | _, below => ∃ braces, below = .interpolation braces

/-- The contexts open after some number of steps. -/
structure Nested (steps : Nat) (stack : Stack) : Prop where
  /-- Each of them can stand directly above the one below it. -/
  standsOn : stack.IsChain StandsOn
  /-- The outermost one is a string or a comment. -/
  outermost : ∀ c ∈ stack.getLast?, c.isInterpolation = false
  /-- None but the innermost one is a comment. -/
  innermost : ∀ c ∈ stack.tail, c.isComment = false
  /-- A block comment counts itself. -/
  counted : ∀ depth, .blockComment depth ∈ stack → 1 ≤ depth
  /-- No count is more than the number of steps. -/
  bounded : ∀ c ∈ stack, c.count ≤ steps

variable {steps : Nat} {stack outer : Stack} {x y : Context} {before : Option Char} {c : Char}
  {rest : Text}

/-- What opens in code is no interpolation, and the only thing it may count is a comment, itself. -/
theorem opened_of_opening? {o : Context × Nat} (ho : o ∈ opening? before c rest) :
    o.1.isInterpolation = false ∧ o.1.count ≤ 1 ∧
      ∀ depth, o.1 = .blockComment depth → 1 ≤ depth := by
  have hstring (d : Delimiter) (raw : Bool) : (Context.string d raw).isInterpolation = false ∧
      (Context.string d raw).count ≤ 1 ∧
        ∀ depth, Context.string d raw = .blockComment depth → 1 ≤ depth :=
    ⟨rfl, Nat.zero_le 1, fun _ h => by cases h⟩
  cases opening?_eq_some_iff.1 ho with
  | line => exact ⟨rfl, Nat.zero_le 1, fun _ h => by cases h⟩
  | block =>
    refine ⟨rfl, Nat.le_refl 1, ?_⟩
    rintro _ ⟨⟩
    exact Nat.le_refl 1
  | quote | raw => exact hstring _ _

namespace Nested

/-- At the start nothing is open. -/
theorem nil : Nested 0 [] := by
  refine ⟨.nil, ?_, ?_, ?_, ?_⟩
  all_goals exact fun _ h => by cases h

/-- Further steps may leave the contexts as they are. -/
theorem mono (h : Nested steps stack) {more : Nat} (hle : steps ≤ more) : Nested more stack :=
  { h with bounded := fun c hc => (h.bounded c hc).trans hle }

/-- The innermost context may be closed. -/
theorem pop (h : Nested steps (x :: outer)) : Nested steps outer where
  standsOn := h.standsOn.tail
  outermost c hc := by
    refine h.outermost c ?_
    rw [List.getLast?_cons, Option.mem_def.1 hc]
    rfl
  innermost c hc := h.innermost c (List.mem_of_mem_tail hc)
  counted depth hdepth := h.counted depth (List.mem_cons_of_mem x hdepth)
  bounded c hc := h.bounded c (List.mem_cons_of_mem x hc)

/-- A context may be opened above one that it can stand on. -/
theorem push (h : Nested steps outer) (stands : ∀ below ∈ outer.head?, StandsOn x below)
    (bottom : outer = [] → x.isInterpolation = false)
    (counted : ∀ depth, x = .blockComment depth → 1 ≤ depth) (bounded : x.count ≤ steps) :
    Nested steps (x :: outer) where
  standsOn := List.isChain_cons.2 ⟨stands, h.standsOn⟩
  outermost c hc := by
    cases outer with
    | nil =>
      obtain rfl : x = c := by simpa using hc
      exact bottom rfl
    | cons y outer =>
      rw [List.getLast?_cons_cons] at hc
      exact h.outermost c hc
  innermost c hc := by
    cases outer with
    | nil => cases hc
    | cons y outer =>
      rcases List.mem_cons.1 hc with rfl | hc
      · -- Nothing stands on a comment.
        have hstands := stands c rfl
        cases x with
        | interpolation braces =>
          obtain ⟨d, rfl⟩ := hstands
          rfl
        | string _ _ | lineComment | blockComment _ =>
          obtain ⟨braces, rfl⟩ := hstands
          rfl
      · exact h.innermost c hc
  counted depth hdepth := by
    rcases List.mem_cons.1 hdepth with hx | hdepth
    · exact counted depth hx.symm
    · exact h.counted depth hdepth
  bounded c hc := by
    rcases List.mem_cons.1 hc with rfl | hc
    · exact bounded
    · exact h.bounded c hc

/-- The innermost context may be a comment with more or fewer comments in it. -/
theorem recountComment {depth depth' : Nat} (h : Nested steps (.blockComment depth :: outer))
    (counted : 1 ≤ depth') (bounded : depth' ≤ steps) :
    Nested steps (.blockComment depth' :: outer) := by
  refine h.pop.push (List.isChain_cons.1 h.standsOn).1 (fun _ => rfl) ?_ bounded
  rintro _ ⟨⟩
  exact counted

/-- The innermost context may be an interpolation with more or fewer braces in it. -/
theorem recountBraces {braces braces' : Nat} (h : Nested steps (.interpolation braces :: outer))
    (bounded : braces' ≤ steps) : Nested steps (.interpolation braces' :: outer) := by
  refine h.pop.push (List.isChain_cons.1 h.standsOn).1 ?_ (fun _ h => by cases h) bounded
  -- An interpolation is never the outermost context.
  rintro rfl
  exact absurd (h.outermost _ rfl) (by simp [Context.isInterpolation])

/-- A literal that opens in code, or in the code of an interpolation, may stand there. -/
theorem opening (h : Nested steps stack)
    (code : ∀ below ∈ stack.head?, below.isInterpolation = true) {o : Context × Nat}
    (ho : o ∈ opening? before c rest) : Nested (steps + 1) (o.1 :: stack) := by
  obtain ⟨hinterpolation, hcount, hcounted⟩ := opened_of_opening? ho
  have hmore := h.mono (Nat.le_succ steps)
  refine hmore.push ?_ (fun _ => hinterpolation) hcounted (hcount.trans (Nat.le_add_left 1 steps))
  intro below hbelow
  have hcode := code below hbelow
  generalize o.1 = x at hinterpolation
  cases below with
  | interpolation braces =>
    cases x with
    | interpolation braces => cases hinterpolation
    | string _ _ | lineComment | blockComment _ => exact ⟨braces, rfl⟩
  | string _ _ | lineComment | blockComment _ => cases hcode

/-- Every step keeps the contexts nested. -/
theorem step (h : Nested steps stack) (before : Option Char) (c : Char) (rest : Text) :
    Nested (steps + 1) (Literal.step stack before c rest).2 := by
  have hsame := h.mono (Nat.le_succ steps)
  match stack, h, hsame with
  | [], h, hsame =>
    cases ho : opening? before c rest with
    | some o =>
      simp only [Literal.step, ho]
      exact h.opening (fun _ hbelow => by cases hbelow) ho
    | none =>
      simp only [Literal.step, ho]
      exact hsame
  | .interpolation braces :: outer, h, hsame =>
    cases ho : opening? before c rest with
    | some o =>
      simp only [Literal.step, ho]
      refine h.opening (fun below hbelow => ?_) ho
      cases hbelow
      rfl
    | none =>
      have hbraces : braces ≤ steps := h.bounded _ List.mem_cons_self
      simp only [Literal.step, ho, braceStep]
      split_ifs with hopen hclose
      · exact hsame.recountBraces (Nat.succ_le_succ hbraces)
      · cases braces with
        | zero => exact hsame.pop
        | succ inner => exact hsame.recountBraces (by omega)
      · exact hsame
  | .lineComment :: outer, h, hsame =>
    simp only [Literal.step]
    split_ifs with hend
    · exact hsame.pop
    · exact hsame
  | .blockComment depth :: outer, h, hsame =>
    have hdepth : depth ≤ steps := h.bounded _ List.mem_cons_self
    simp only [Literal.step, commentStep]
    split_ifs with hopen hclose hlast
    · exact hsame.recountComment (Nat.le_add_left 1 depth) (Nat.succ_le_succ hdepth)
    · exact hsame.pop
    · exact hsame.recountComment (by omega) (by omega)
    · exact hsame
  | .string d raw :: outer, h, hsame =>
    simp only [Literal.step, stringStep]
    split_ifs with hescape hopen hclose hend
    · exact hsame
    · -- Only a string that is not raw lets an interpolation open.
      have hraw : raw = false := by
        cases raw with
        | false => rfl
        | true => simp at hopen
      subst hraw
      refine hsame.push ?_ (fun hnil => by cases hnil) (fun _ h => by cases h) (Nat.zero_le _)
      intro below hbelow
      cases hbelow
      exact ⟨d, rfl⟩
    · exact hsame.pop
    · exact hsame.pop
    · exact hsame

end Nested

/-! ## Steps at any positions -/

/-- The contexts open after a step at a position of a text; a position outside the text is passed
over. -/
def visited (stack : Stack) (place : Text × Nat) : Stack :=
  match visit? stack place.1 place.2 with
  | some v => v.state
  | none => stack

/-- The contexts open after a step at each of these positions of texts in turn. -/
def openAfter (places : List (Text × Nat)) : Stack := places.foldl visited []

/-- The step at a position is one between the characters before it and those after it. -/
theorem visited_eq (stack : Stack) (place : Text × Nat) :
    visited stack place =
      match place.1.drop place.2 with
      | [] => stack
      | c :: rest => (step stack (place.1.take place.2).getLast? c rest).2 := by
  unfold visited visit?
  cases place.1.drop place.2 <;> rfl

/-- The contexts nest after any steps. -/
theorem nested_openAfter (places : List (Text × Nat)) :
    Nested places.length (openAfter places) := by
  induction places using List.reverseRecOn with
  | nil => exact .nil
  | append_singleton places place ih =>
    rw [openAfter, List.foldl_concat, ← openAfter, visited_eq, List.length_append]
    split
    · exact ih.mono (Nat.le_succ _)
    · exact ih.step _ _ _

/-! ## Counters of 32 bits -/

namespace Words

/-- A context whose counter is a word. Code outside all literals has an entry of its own, which a
stack could hold. -/
inductive Entry where
  | code
  | string (delimiter : Delimiter) (raw : Bool)
  | lineComment
  | blockComment (depth : UInt32)
  | interpolation (braces : UInt32)
  deriving DecidableEq, Repr

/-- The entry for a context. -/
def Entry.ofContext : Context → Entry
  | .string d raw => .string d raw
  | .lineComment => .lineComment
  | .blockComment depth => .blockComment (.ofNat depth)
  | .interpolation braces => .interpolation (.ofNat braces)

/-- The delimiter of a string, and whether the string is raw. -/
def Entry.delimiter? : Entry → Option (Delimiter × Bool)
  | .string d raw => some (d, raw)
  | _ => none

/-- The innermost entry of a stack: code where there is none. -/
def innermost (entries : List Entry) : Entry := entries.head?.getD .code

/-- What words can fail at. -/
inductive Fault where
  /-- A counter at its greatest value is counted up. -/
  | overflow
  /-- A counter at zero is counted down. -/
  | underflow
  /-- An entry that should be a string has no delimiter. -/
  | noDelimiter
  deriving DecidableEq, Repr

/-- A word counted up by one, unless it is the greatest one. -/
def countUp (n : UInt32) : Except Fault UInt32 :=
  if n.toNat + 1 < 2 ^ 32 then .ok (n + 1) else .error .overflow

/-- A word counted down by one, unless it is zero. -/
def countDown (n : UInt32) : Except Fault UInt32 :=
  if n = 0 then .error .underflow else .ok (n - 1)

/-- One step on words. -/
def step (entries : List Entry) (before : Option Char) (c : Char) (rest : Text) :
    Except Fault (Step × List Entry) :=
  match innermost entries with
  | .code =>
    match opening? before c rest with
    | some (context, width) => .ok (.consumed width, .ofContext context :: entries)
    | none => .ok (.code, entries)
  | .interpolation braces =>
    match opening? before c rest with
    | some (context, width) => .ok (.consumed width, .ofContext context :: entries)
    | none =>
      if c = '{' then
        (countUp braces).map fun n => (.consumed 1, .interpolation n :: entries.tail)
      else if c = '}' then
        if braces = 0 then .ok (.consumed 1, entries.tail)
        else (countDown braces).map fun n => (.consumed 1, .interpolation n :: entries.tail)
      else .ok (.consumed 1, entries)
  | .lineComment => .ok (.consumed 1, if c = '\n' then entries.tail else entries)
  | .blockComment depth =>
    if c = '/' ∧ rest.head? = some '*' then
      (countUp depth).map fun n => (.consumed 2, .blockComment n :: entries.tail)
    else if c = '*' ∧ rest.head? = some '/' then
      if depth ≤ 1 then .ok (.consumed 2, entries.tail)
      else (countDown depth).map fun n => (.consumed 2, .blockComment n :: entries.tail)
    else .ok (.consumed 1, entries)
  | entry =>
    match entry.delimiter? with
    | none => .error .noDelimiter
    | some (d, raw) =>
      if !raw && c = '\\' then .ok (.consumed 2, entries)
      else if !raw && c = '$' && rest.head? = some '{' then
        .ok (.consumed 2, .interpolation 0 :: entries)
      else if d.text.isPrefixOf (c :: rest) then .ok (.consumed d.width, entries.tail)
      else if !d.triple && c = '\n' then .ok (.consumed 1, entries.tail)
      else .ok (.consumed 1, entries)

/-- The entries after a step at a position of a text. -/
def visited (entries : List Entry) (place : Text × Nat) : Except Fault (List Entry) :=
  match place.1.drop place.2 with
  | [] => .ok entries
  | c :: rest => (step entries (place.1.take place.2).getLast? c rest).map Prod.snd

/-- The entries after a step at each of these positions of texts in turn. -/
def openAfter (places : List (Text × Nat)) : Except Fault (List Entry) := places.foldlM visited []

variable {n : Nat}

/-- A number below the greatest word counts up as a word. -/
theorem countUp_ofNat (h : n + 1 < 2 ^ 32) : countUp (.ofNat n) = .ok (.ofNat (n + 1)) := by
  have hn : (UInt32.ofNat n).toNat = n :=
    UInt32.toNat_ofNat_of_lt' ((Nat.lt_succ_self n).trans h)
  unfold countUp
  rw [hn, if_pos h, UInt32.ofNat_add]
  rfl

/-- Only zero is zero as a word. -/
theorem ofNat_eq_zero_iff (h : n < 2 ^ 32) : UInt32.ofNat n = 0 ↔ n = 0 := by
  rw [← UInt32.toNat_inj, UInt32.toNat_ofNat_of_lt' h]
  rfl

/-- A number above zero counts down as a word. -/
theorem countDown_ofNat (h : n < 2 ^ 32) (hpos : 1 ≤ n) :
    countDown (.ofNat n) = .ok (.ofNat (n - 1)) := by
  have hne : UInt32.ofNat n ≠ 0 := by
    rw [Ne, ofNat_eq_zero_iff h]
    exact Nat.pos_iff_ne_zero.1 hpos
  unfold countDown
  rw [if_neg hne, UInt32.ofNat_sub hpos]
  rfl

/-- A number compares with one as a word. -/
theorem ofNat_le_one_iff (h : n < 2 ^ 32) : UInt32.ofNat n ≤ 1 ↔ n ≤ 1 := by
  rw [UInt32.le_iff_toNat_le, UInt32.toNat_ofNat_of_lt' h]
  rfl

/-- A step on words is the step on numbers, as long as all counts are words. -/
theorem step_eq (h : Nested steps stack) (hsteps : steps + 1 < 2 ^ 32) (before : Option Char)
    (c : Char) (rest : Text) :
    step (stack.map .ofContext) before c rest =
      .ok ((Literal.step stack before c rest).1,
        (Literal.step stack before c rest).2.map .ofContext) := by
  match stack, h with
  | [], _ =>
    cases ho : opening? before c rest <;> simp [step, innermost, Literal.step, ho]
  | .interpolation braces :: outer, h =>
    have hbraces : braces ≤ steps := h.bounded _ List.mem_cons_self
    cases ho : opening? before c rest with
    | some o => simp [step, innermost, Literal.step, ho, Entry.ofContext]
    | none =>
      simp only [step, innermost, Literal.step, ho, List.map_cons, List.head?_cons,
        Option.getD_some, Entry.ofContext, List.tail_cons, braceStep,
        ofNat_eq_zero_iff (show braces < 2 ^ 32 by omega)]
      split_ifs with hopen hclose hzero
      · rw [countUp_ofNat (by omega)]
        rfl
      · rw [hzero]
      · rw [countDown_ofNat (by omega) (by omega)]
        obtain ⟨inner, rfl⟩ := Nat.exists_eq_succ_of_ne_zero hzero
        rfl
      · rfl
  | .lineComment :: outer, _ =>
    simp only [step, innermost, Literal.step, List.map_cons, List.head?_cons, Option.getD_some,
      Entry.ofContext, List.tail_cons]
    split_ifs <;> rfl
  | .blockComment depth :: outer, h =>
    have hdepth : depth ≤ steps := h.bounded _ List.mem_cons_self
    simp only [step, innermost, Literal.step, List.map_cons, List.head?_cons, Option.getD_some,
      Entry.ofContext, List.tail_cons, commentStep, ofNat_le_one_iff (show depth < 2 ^ 32 by omega)]
    split_ifs with hopen hclose hlast
    · rw [countUp_ofNat (by omega)]
      rfl
    · rfl
    · rw [countDown_ofNat (by omega) (by omega)]
      rfl
    · rfl
  | .string d raw :: outer, _ =>
    simp only [step, innermost, Literal.step, List.map_cons, List.head?_cons, Option.getD_some,
      Entry.ofContext, Entry.delimiter?, List.tail_cons, stringStep]
    split_ifs <;> rfl

/-- No context has the entry of code. -/
theorem code_not_mem (stack : Stack) : Entry.code ∉ stack.map Entry.ofContext := by
  intro h
  obtain ⟨context, -, hcode⟩ := List.mem_map.1 h
  cases context <;> cases hcode

/-- A step on words at a position leads where the step on numbers does, as long as all counts are
words. -/
theorem visited_eq (h : Nested steps stack) (hsteps : steps + 1 < 2 ^ 32) (place : Text × Nat) :
    visited (stack.map .ofContext) place =
      .ok ((Literal.visited stack place).map .ofContext) := by
  rw [visited, Literal.visited_eq]
  cases place.1.drop place.2 with
  | nil => rfl
  | cons c rest =>
    simp only [step_eq h hsteps]
    rfl

/-- Fewer than `2 ^ 32` steps on words succeed, and lead where the steps on numbers do. -/
theorem openAfter_eq (places : List (Text × Nat)) (few : places.length < 2 ^ 32) :
    openAfter places = .ok ((Literal.openAfter places).map .ofContext) := by
  induction places using List.reverseRecOn with
  | nil => rfl
  | append_singleton places place ih =>
    rw [List.length_append, List.length_singleton] at few
    have hbefore := ih ((Nat.lt_succ_self _).trans few)
    have hlast := visited_eq (nested_openAfter places) few place
    unfold openAfter Literal.openAfter at *
    rw [List.foldlM_append, hbefore, List.foldl_concat, ← hlast]
    exact bind_pure (visited _ place)

end Words

/-- No context is described as code. -/
theorem describe_ne_outside (context : Context) : describe (some context) ≠ "Outside" := by
  intro h
  have hchars := congrArg String.toList h
  cases context with
  | string d raw =>
    obtain ⟨quote, triple⟩ := d
    cases quote <;> cases triple <;> cases raw <;> exact absurd hchars (by decide)
  | lineComment => exact absurd hchars (by decide)
  | blockComment depth =>
    have htext : describe (some (.blockComment depth)) =
        "BlockComment \x7b depth: " ++ toString depth ++ " \x7d" := rfl
    rw [htext, String.toList_append, String.toList_append] at hchars
    simp at hchars
  | interpolation braces =>
    have htext : describe (some (.interpolation braces)) =
        "Interpolation \x7b braces: " ++ toString braces ++ " \x7d" := rfl
    rw [htext, String.toList_append, String.toList_append] at hchars
    simp at hchars

/-- What is innermost is described as code exactly if nothing is open. -/
theorem describe_eq_outside_iff (context? : Option Context) :
    describe context? = "Outside" ↔ context? = none := by
  cases context? with
  | none => exact ⟨fun _ => rfl, fun _ => rfl⟩
  | some context =>
    refine iff_of_false (describe_ne_outside context) ?_
    exact Option.some_ne_none context

/-- After any steps, at whatever positions of whatever texts, the contexts nest, and only where
nothing is open is code described to be innermost. Fewer than `2 ^ 32` steps on words lead to the
same contexts without a fault, and to no entry of code. -/
theorem nested_of_steps (places : List (Text × Nat)) :
    Nested places.length (openAfter places) ∧
      (describe (openAfter places).head? = "Outside" ↔ openAfter places = []) ∧
      (places.length < 2 ^ 32 →
        Words.openAfter places = .ok ((openAfter places).map .ofContext) ∧
          Words.Entry.code ∉ (openAfter places).map .ofContext) := by
  refine ⟨nested_openAfter places, ?_, fun few => ⟨Words.openAfter_eq places few, ?_⟩⟩
  · rw [describe_eq_outside_iff, List.head?_eq_none_iff]
  · exact Words.code_not_mem _

/-- Places in several texts: an interpolation with a brace in it opens, a comment opens in there
and another one in the comment, and a position beyond the end is passed over. -/
def scatteredPlaces : List (Text × Nat) :=
  [("a'b".toList, 1), ("$\x7b".toList, 0), ("x\x7d\x7b".toList, 2), ("*/*".toList, 1),
    ("=>".toList, 7), ("//*".toList, 1)]

/-- The contexts that are open after steps at scattered places of several texts, on numbers and on
words. -/
theorem nested_of_scatteredSteps :
    openAfter scatteredPlaces =
        [.blockComment 2, .interpolation 1, .string ⟨.single, false⟩ false] ∧
      scatteredPlaces.length < 2 ^ 32 ∧
      Nested scatteredPlaces.length (openAfter scatteredPlaces) ∧
      Words.openAfter scatteredPlaces = .ok
        [.blockComment 2, .interpolation 1, .string ⟨.single, false⟩ false] := by
  have hopen : openAfter scatteredPlaces =
      [.blockComment 2, .interpolation 1, .string ⟨.single, false⟩ false] := by decide
  have hfew : scatteredPlaces.length < 2 ^ 32 := by decide
  obtain ⟨hnested, -, hwords⟩ := nested_of_steps scatteredPlaces
  refine ⟨hopen, hfew, hnested, ?_⟩
  rw [(hwords hfew).1, hopen]
  rfl

end MemberOutline.Literal
