import MemberOutline.Proofs.Shape.Label

/-!
# Where the leading text ends

A token that is reported where it stands ends the leading text: what comes before the token has the
same leading text by itself (`leadingText_before_token`), and if nothing was reported earlier the
sequence begins with it. A round bracket that was withheld does not end the leading text when it is
reported later, since by then the leading text has gone past it
(`leadingText_past_withheld`).

After the token nothing is added to the leading text and nothing is taken away from the tokens. Both
are kept by a scan that goes side by side with itself (`Scan.Parallel`).
-/

namespace MemberOutline.Shape

open Text (anyStep)

/-- Tokens that begin with given ones go on to do so. -/
theorem TokensKept.beginning (tokens : Text) : TokensKept fun p _ => tokens <+: p.1 where
  report := fun token h => h.trans (List.prefix_append _ token)
  withhold := fun _ h => h
  flush := fun {_ v _ _} h => h.trans (List.prefix_append _ v)
  forget := fun h => h

/-- A leading text that is complete remains as it is. -/
theorem LeadingKept.ended (collected : Collected) :
    LeadingKept fun l _ => l = .ended collected where
  add := by
    rintro l m c rfl
    rfl
  blank := by
    rintro l m rfl
    rfl
  enter := by
    rintro l m rfl
    rfl
  leave := by
    rintro l m rfl
    rfl
  giveUp := by
    rintro l m rfl
    rfl
  finish := by
    rintro l m rfl
    rfl

namespace Scan

variable {s : Scan} {a b seen rest : Text} {c : Char}

/-- Settling the angles changes nothing in what is collected. -/
theorem collected_settle (s : Scan) (c : Char) :
    (s.settle c).leading.collected = s.leading.collected := by
  unfold settle giveUpAngles
  split_ifs
  · split
    · exact s.leading.collected_giveUp
    · rfl
  · rfl

/-- A boundary of one character is an equals sign, a semicolon or an opener. -/
theorem boundary_cases (hc : [c] ∈ boundaries) :
    c = '=' ∨ c = ';' ∨ ∃ g, Group.ofOpener? c = some g := by
  have hmem : c = '=' ∨ c = ';' ∨ c = '(' ∨ c = '[' ∨ c = '{' := by
    simpa [boundaries, signs] using hc
  rcases hmem with h | h | rfl | rfl | rfl
  · exact .inl h
  · exact .inr (.inl h)
  · exact .inr (.inr ⟨.round, rfl⟩)
  · exact .inr (.inr ⟨.square, rfl⟩)
  · exact .inr (.inr ⟨.curly, rfl⟩)

/-- A boundary opens no literal. -/
theorem step_of_boundary (before : Option Char) (rest : Text) (hc : [c] ∈ boundaries) :
    Literal.step [] before c rest = (.code, []) := by
  refine Literal.step_of_not_mem fun hmem => ?_
  have hnone : ['\x27', '\x22', '/', 'r', 'R'].all ([·] ∉ boundaries) = true := by decide
  exact of_decide_eq_true (List.all_eq_true.1 hnone c hmem) hc

/-- At depth zero a boundary is reported and ends the leading text. -/
theorem stride_boundary (seen rest : Text) (outside : s.literals = []) (hc : [c] ∈ boundaries)
    (depth : (s.settle c).groups = []) :
    (s.settle c).tokens ++ [c] <+: (stride s seen c rest).2.tokens ∧
      (stride s seen c rest).2.leading = .ended s.leading.collected := by
  have hcode : Literal.step s.literals seen.head? c rest = (.code, []) := by
    rw [outside]
    exact step_of_boundary seen.head? rest hc
  have hended : (s.settle c).leading.finish = .ended s.leading.collected := by
    rw [LeadingText.finish, collected_settle]
  have hreport (token : Text) : (s.settle c).report (c :: token) =
      { s.settle c with
        tokens := (s.settle c).tokens ++ c :: token
        leading := .ended s.leading.collected } := by
    unfold report
    rw [if_pos depth, hended]
  have hmove := stride_move s seen c rest
  generalize stride s seen c rest = answer at hmove
  cases hmove with
  | literal consumed => simp [hcode] at consumed
  | equals _ hequals =>
    subst hequals
    obtain ⟨token, htoken⟩ : ∃ token, equalsToken rest = '=' :: token := by
      unfold equalsToken
      split <;> exact ⟨_, rfl⟩
    rw [htoken, hreport token]
    exact ⟨⟨token, by simp⟩, rfl⟩
  | semicolon _ hsemicolon =>
    subst hsemicolon
    rw [hreport []]
    exact ⟨List.prefix_rfl, rfl⟩
  | opener _ hopener =>
    rw [openGroup_of_nil depth, hended]
    exact ⟨List.prefix_rfl, rfl⟩
  | closer _ hcloser =>
    rcases Group.ofCloser?_eq_some_iff.1 hcloser with ⟨rfl, -⟩ | ⟨rfl, -⟩ | ⟨rfl, -⟩
    all_goals exact absurd hc (by decide)
  | openAngle _ hangle _ =>
    subst hangle
    exact absurd hc (by decide)
  | closeAngle _ hangle _ =>
    subst hangle
    exact absurd hc (by decide)
  | plain _ notEquals notSemicolon notOpener _ _ _ =>
    rcases boundary_cases hc with h | h | ⟨g, h⟩
    · exact absurd h notEquals
    · exact absurd h notSemicolon
    · rw [notOpener] at h
      cases h

/-- Once a boundary is reported, the leading text and the beginning of the tokens are settled. -/
theorem parallel_after_boundary {t : Scan} {tokens : Text} {collected : Collected} (k : Nat)
    (seen rest : Text) (htokens : tokens <+: t.tokens) (hended : t.leading = .ended collected) :
    (Text.walk id stride t k seen rest).Parallel (fun p _ => tokens <+: p.1)
      (fun l _ => l = .ended collected) (Text.walk id stride t k seen rest) :=
  Parallel.walk (.beginning tokens) (.ended collected) ⟨rfl, rfl, htokens, hended⟩ k seen rest

end Scan

/-- Where a boundary stands at depth zero, the leading text is the one of the text before it. If
nothing was reported before, the boundary is the first token of the sequence. -/
theorem leadingText_before_token {a b : Text} {c : Char} {s : Scan}
    (arrives : Text.Path id Scan.stride anyStep .start [] a (c :: b) s) (outside : s.literals = [])
    (hc : [c] ∈ boundaries) (depth : (s.settle c).groups = []) (strip : Bool) :
    (Shape.ofText strip (a ++ c :: b)).leadingText = (Shape.ofText strip a).leadingText ∧
      ((s.settle c).tokens = [] →
        (Shape.ofText strip (a ++ c :: b)).sequence.head? = some c) := by
  obtain ⟨htokens, hended⟩ := Scan.stride_boundary a.reverse b outside hc depth
  -- The text before the boundary leads to the same place, also where it is the whole text.
  have hinert : Literal.Inert [] := fun d hd => by cases hd
  have hbefore : Scan.ofText a = s := by
    have hpath := Scan.path_before_inert arrives outside hinert
    have hwalk := hpath.walk_eq
    rwa [List.append_nil] at hwalk
  have hwhole : Scan.ofText (a ++ c :: b) = Text.walk id Scan.stride
      (Scan.stride s a.reverse c b).2 ((Scan.stride s a.reverse c b).1 - 1) (c :: a.reverse) b := by
    rw [Scan.ofText, arrives.walk_eq, List.append_nil]
    rfl
  have hafter := Scan.parallel_after_boundary ((Scan.stride s a.reverse c b).1 - 1)
    (c :: a.reverse) b htokens hended
  rw [← hwhole] at hafter
  constructor
  · unfold Shape.ofText Scan.shape
    rw [hafter.leading, hbefore]
    rfl
  · intro hnone
    obtain ⟨more, hmore⟩ := hafter.sequence (.beginning _) strip
    rw [hnone] at hmore
    have hsequence : (Shape.ofText strip (a ++ c :: b)).sequence = c :: more := hmore.symm
    rw [hsequence]
    rfl

/-- The name of a method whose result type has a function type among its arguments. -/
def methodHead : Text := "Map<K, F()> m".toList

/-- After the name of a method with a function type before it the first token is the round bracket
of the parameters: the one inside the type arguments was withheld and forgotten. -/
theorem leadingText_before_parameters :
    (Shape.ofText false (methodHead ++ '(' :: "x) => y;".toList)).leadingText =
        (Shape.ofText false methodHead).leadingText ∧
      (Shape.ofText false (methodHead ++ '(' :: "x) => y;".toList)).sequence.head? = some '(' := by
  have harrival : (Text.arrival? id Scan.stride (fun _ _ _ _ => true) .start 0 []
      methodHead ('(' :: "x) => y;".toList)).any (fun s => s.literals = [] ∧
        (s.settle '(').groups = [] ∧ (s.settle '(').tokens = []) = true := by decide
  obtain ⟨s, hs, hmeets⟩ := (Option.any_eq_true _ _).1 harrival
  obtain ⟨houtside, hdepth, hnone⟩ := of_decide_eq_true hmeets
  have hpath := (Text.path_of_arrival hs).1.mono fun _ _ _ _ _ => (trivial : True)
  have hbefore := leadingText_before_token hpath houtside (by decide) hdepth false
  exact ⟨hbefore.1, hbefore.2 hnone⟩

/-- A comparison whose round bracket is withheld until the equals sign. -/
def withheldCall : Text := "a<b(c) = d;".toList

/-- In a comparison with a withheld round bracket the first token is that bracket, but the leading
text goes past it. -/
theorem leadingText_past_withheld :
    withheldCall.count '(' = 1 ∧ withheldCall.idxOf '(' = 3 ∧
      ∀ strip : Bool, (Shape.ofText strip withheldCall).sequence.head? = some '(' ∧
        (Shape.ofText strip withheldCall).leadingText = "a<b(c)".toList ∧
        (Shape.ofText strip (withheldCall.take 3)).leadingText = "a<b".toList := by
  decide

end MemberOutline.Shape
