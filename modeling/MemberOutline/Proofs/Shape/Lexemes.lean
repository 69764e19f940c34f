import MemberOutline.Proofs.Shape.Reference

/-!
# The lexemes that a scan takes up

A step of a scan takes up one lexeme of the code, or passes over a part of a literal
(`Scan.taken`). The places of the view that it covers (`Scan.places`) have these lexemes
(`Scan.lexemes_places`), so what every step keeps in relation to the lexemes taken up so far holds
at the end of a path (`Scan.path_lexemes`) and of a text (`Scan.ofText_lexemes`).
-/

namespace MemberOutline.Shape

namespace Scan

variable {s : Scan} {seen more after : Text} {c : Char}

/-- The lexemes that a step takes up: none of a literal, and one of code. -/
def taken (s : Scan) (seen : Text) (c : Char) (rest : Text) : List Text :=
  match (Literal.step s.literals seen.head? c rest).1 with
  | .consumed _ => []
  | .code => [if c = '=' then equalsToken rest else [c]]

/-- A part of a literal is no lexeme. -/
theorem taken_of_consumed {seen rest : Text} {width : Nat} {literals : Literal.Stack}
    (consumed : Literal.step s.literals seen.head? c rest = (.consumed width, literals)) :
    taken s seen c rest = [] := by
  unfold taken
  rw [consumed]

/-- The lexeme of an equals sign is its token. -/
theorem taken_of_equals {seen rest : Text}
    (code : Literal.step s.literals seen.head? '=' rest = (.code, [])) :
    taken s seen '=' rest = [equalsToken rest] := by
  unfold taken
  rw [code]
  rfl

/-- The lexeme of a code character other than the equals sign. -/
theorem taken_of_code {seen rest : Text}
    (code : Literal.step s.literals seen.head? c rest = (.code, [])) (hc : c ≠ '=') :
    taken s seen c rest = [[c]] := by
  unfold taken
  rw [code]
  simp only [if_neg hc]

/-! ## The places that a step covers -/

/-- The token of an equals sign with an `=` or a `>` right after it has two characters. -/
theorem equalsToken_cons {d : Char} (hd : d = '=' ∨ d = '>') (rest : Text) :
    equalsToken (d :: rest) = ['=', d] := by
  rcases hd with rfl | rfl <;> rfl

/-- An equals sign without an `=` or a `>` right after it is a token by itself. -/
theorem equalsToken_of_not {rest : Text}
    (hnot : ¬ ∃ d, (d = '=' ∨ d = '>') ∧ rest.head? = some d) : equalsToken rest = ['='] := by
  unfold equalsToken
  split
  next h => exact absurd ⟨'=', .inl rfl, h⟩ hnot
  next h => exact absurd ⟨'>', .inr rfl, h⟩ hnot
  next => rfl

/-- After a code character a step covers nothing, or the second character of `==` or `=>`. -/
theorem covered_of_code
    (code : Literal.step s.literals seen.head? c (more ++ after) = (.code, []))
    (covers : (more ++ after).take ((Scan.stride s seen c (more ++ after)).1 - 1) = more) :
    more = [] ∨ ∃ d, (d = '=' ∨ d = '>') ∧ more = [d] := by
  rw [width_of_code code] at covers
  by_cases hsecond : c = '=' ∧ ∃ d, (d = '=' ∨ d = '>') ∧ (more ++ after).head? = some d
  · obtain ⟨rfl, d, hd, hhead⟩ := hsecond
    obtain ⟨tail, htail⟩ := List.head?_eq_some_iff.1 hhead
    rw [if_pos rfl, htail, equalsToken_cons hd] at covers
    exact .inr ⟨d, hd, covers.symm⟩
  · have hone : (if c = '=' then (equalsToken (more ++ after)).length else 1) = 1 := by
      split_ifs with hc
      · rw [equalsToken_of_not fun h => hsecond ⟨hc, h⟩]
        rfl
      · rfl
    rw [hone] at covers
    exact .inl covers.symm

/-- The places of the view that a step covers: those of a literal are empty. -/
def places (s : Scan) (seen : Text) (c : Char) (more after : Text) : List (Option Char) :=
  match (Literal.step s.literals seen.head? c (more ++ after)).1 with
  | .consumed _ => List.replicate (more.length + 1) none
  | .code => (c :: more).map some

/-- The places of a part of a literal are empty. -/
theorem places_of_consumed {width : Nat} {literals : Literal.Stack}
    (consumed : Literal.step s.literals seen.head? c (more ++ after) =
      (.consumed width, literals)) :
    places s seen c more after = List.replicate (more.length + 1) none := by
  unfold places
  rw [consumed]

/-- The places of code hold the characters that the step covers. -/
theorem places_of_code
    (code : Literal.step s.literals seen.head? c (more ++ after) = (.code, [])) :
    places s seen c more after = (c :: more).map some := by
  unfold places
  rw [code]

/-- A code character other than the equals sign is covered by itself. -/
theorem eq_nil_of_covers
    (code : Literal.step s.literals seen.head? c (more ++ after) = (.code, []))
    (covers : (more ++ after).take ((stride s seen c (more ++ after)).1 - 1) = more)
    (hc : c ≠ '=') :
    more = [] := by
  rw [width_of_code code, if_neg hc] at covers
  exact covers.symm

/-- An equals sign is covered together with the rest of its token. -/
theorem equalsToken_of_covers
    (code : Literal.step s.literals seen.head? '=' (more ++ after) = (.code, []))
    (covers : (more ++ after).take ((stride s seen '=' (more ++ after)).1 - 1) = more) :
    equalsToken (more ++ after) = '=' :: more := by
  rw [width_of_code code, if_pos rfl] at covers
  by_cases hsecond : ∃ d, (d = '=' ∨ d = '>') ∧ (more ++ after).head? = some d
  · obtain ⟨d, hd, hhead⟩ := hsecond
    obtain ⟨tail, htail⟩ := List.head?_eq_some_iff.1 hhead
    rw [htail, equalsToken_cons hd] at covers ⊢
    obtain rfl : [d] = more := covers
    rfl
  · rw [equalsToken_of_not hsecond] at covers ⊢
    obtain rfl : [] = more := covers
    rfl

/-- A step adds the places that it covers to the view of a text. -/
theorem codeFrom_stride
    (covers : (more ++ after).take ((stride s seen c (more ++ after)).1 - 1) = more) :
    Literal.codeFrom s.literals 0 seen (c :: (more ++ after)) =
      places s seen c more after ++ Literal.codeFrom (stride s seen c (more ++ after)).2.literals 0
        (more.reverse ++ c :: seen) after := by
  rcases hstep : Literal.step s.literals seen.head? c (more ++ after) with ⟨answer, literals⟩
  rw [literals_stride, hstep]
  cases answer with
  | consumed width =>
    rw [width_of_consumed hstep] at covers
    rw [places_of_consumed hstep]
    exact Literal.codeFrom_consumed hstep covers
  | code =>
    obtain ⟨-, rfl⟩ := Literal.step_eq_code hstep
    rw [places_of_code hstep, Literal.codeFrom_code hstep]
    rcases covered_of_code hstep covers with rfl | ⟨d, hd, rfl⟩
    · rfl
    · -- The second character of the token is code as well.
      have hnext : Literal.step [] (c :: seen).head? d after = (.code, []) :=
        Literal.step_of_not_mem (by rcases hd with rfl | rfl <;> decide)
      rw [List.cons_append, List.nil_append, Literal.codeFrom_code hnext]
      rfl

/-- A step covers as many places as characters. -/
theorem length_places (s : Scan) (seen : Text) (c : Char) (more after : Text) :
    (places s seen c more after).length = more.length + 1 := by
  unfold places
  split <;> simp

/-- The lexemes of the places that a step covers are those that it takes up, whatever is seen after
them. -/
theorem lexemes_places
    (covers : (more ++ after).take ((stride s seen c (more ++ after)).1 - 1) = more)
    {onward : List (Option Char)}
    (honward : ∀ d, onward.head? = some (some d) → after.head? = some d) :
    lexemes (places s seen c more after ++ onward) =
      taken s seen c (more ++ after) ++ lexemes onward := by
  rcases hstep : Literal.step s.literals seen.head? c (more ++ after) with ⟨answer, literals⟩
  cases answer with
  | consumed width =>
    rw [places_of_consumed hstep, lexemes_literal, taken_of_consumed hstep, List.nil_append]
  | code =>
    obtain ⟨-, rfl⟩ := Literal.step_eq_code hstep
    rw [places_of_code hstep]
    by_cases hc : c = '='
    · subst hc
      have htoken := equalsToken_of_covers hstep covers
      rw [taken_of_equals hstep, htoken]
      rcases covered_of_code hstep covers with rfl | ⟨d, hd, rfl⟩
      · -- What the view shows next would also be next in the text.
        have hnone {d : Char} (hd : d = '=' ∨ d = '>') : onward.head? ≠ some (some d) := by
          intro hhead
          obtain ⟨tail, rfl⟩ := List.head?_eq_some_iff.1 (honward d hhead)
          rw [List.nil_append, equalsToken_cons hd] at htoken
          cases htoken
        exact lexemes_cons fun _ => ⟨hnone (.inl rfl), hnone (.inr rfl)⟩
      · rcases hd with rfl | rfl <;> rfl
    · rw [taken_of_code hstep hc, eq_nil_of_covers hstep covers hc]
      exact lexemes_cons fun h => absurd h hc

/-! ## A path -/

/-- What every step keeps of a scan and the lexemes that it has taken up so far holds at the end of
a path, where the view of the text is the one of the path and then what is seen from there. -/
theorem path_lexemes (Kept : Scan → List Text → Prop) {via : Text.Condition Scan}
    {seen way rest : Text} {t : Scan} {read : List Text}
    (step : ∀ s seen c rest read, via s seen c rest → Kept s read →
      Kept (Scan.stride s seen c rest).2 (read ++ taken s seen c rest))
    (hpath : Text.Path id Scan.stride via s seen way rest t) (h : Kept s read) :
    ∃ view : List (Option Char), view.length = way.length ∧
      Literal.codeFrom s.literals 0 seen (way ++ rest) =
        view ++ Literal.codeFrom t.literals 0 (way.reverse ++ seen) rest ∧
      Kept t (read ++ lexemes view) := by
  induction hpath generalizing read with
  | stay =>
    refine ⟨[], rfl, rfl, ?_⟩
    rw [lexemes, List.append_nil]
    exact h
  | @step s t seen more way rest c meets covers _ ih =>
    -- The lexemes of the first step come first, then those of the steps after it.
    obtain ⟨onward, honward, hrest, hkept⟩ := ih (step _ _ _ _ read meets h)
    refine ⟨places s seen c more (way ++ rest) ++ onward, ?_, ?_, ?_⟩
    · rw [List.length_append, length_places, honward, List.length_cons, List.length_append]
      omega
    · rw [List.cons_append, List.append_assoc, codeFrom_stride covers, hrest]
      simp
    · rw [lexemes_places covers, ← List.append_assoc]
      · exact hkept
      · intro d hd
        have hhead := congrArg List.head? hrest
        rw [List.head?_append, hd] at hhead
        exact Literal.head?_of_codeFrom hhead

/-- What every step on a path through a whole text keeps of a scan and the lexemes that it has taken
up holds in the end for the lexemes of all its code. -/
theorem lexemes_of_path (Kept : Scan → List Text → Prop) {via : Text.Condition Scan} {t : Text}
    {u : Scan} (step : ∀ s seen c rest read, via s seen c rest → Kept s read →
      Kept (Scan.stride s seen c rest).2 (read ++ taken s seen c rest))
    (hpath : Text.Path id Scan.stride via start [] t [] u) (h : Kept start []) :
    Kept u (lexemes (Literal.codeView t)) := by
  obtain ⟨view, -, hview, hkept⟩ := path_lexemes Kept step hpath h
  rw [List.append_nil, Literal.codeFrom, List.append_nil] at hview
  rw [Literal.codeView, show Literal.codeFrom [] 0 [] t = view from hview]
  exact hkept

/-- What every step keeps of a scan and the lexemes that it has taken up holds at the end of a text
for the lexemes of all its code. -/
theorem ofText_lexemes (Kept : Scan → List Text → Prop)
    (step : ∀ s seen c rest read, Kept s read →
      Kept (Scan.stride s seen c rest).2 (read ++ taken s seen c rest))
    (h : Kept start []) (t : Text) : Kept (ofText t) (lexemes (Literal.codeView t)) :=
  lexemes_of_path Kept (fun s seen c rest read _ => step s seen c rest read)
    (Text.path_walk start [] t) h

end Scan

end MemberOutline.Shape
