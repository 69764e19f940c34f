import MemberOutline.Proofs.Literal.Blanked
import MemberOutline.Proofs.Shape.Lexemes
import MemberOutline.Proofs.Shape.Silence

/-!
# A shape without literals

A text has the same shape as the text with a space in place of each of its literals
(`shape_blanked`). The two scans are kept in step through the whole text (`Scan.path_blanked`): when
a literal opens in the one, the other one comes to the space for it, and waits there until the
literal ends. All the while the states are the same but for the literals, as a literal only leaves a
gap (`Scan.Waits`).
-/

namespace MemberOutline.Shape

open Text (anyStep isIdentifierChar)

namespace Scan

variable {s t : Scan} {seen seen' rest rest' more way : Text} {c : Char}

/-- A scan without its literals. -/
def withoutLiterals (s : Scan) : Scan := { s with literals := [] }

/-- Outside all literals there are none to leave out. -/
theorem withoutLiterals_of_nil (h : s.literals = []) : s.withoutLiterals = s := by
  unfold withoutLiterals
  rw [← h]

/-! ## Alike characters around a step -/

/-- The token of an equals sign only depends on whether an `=` or a `>` comes next. -/
theorem equalsToken_of_head? (hequals : rest.head? = some '=' ↔ rest'.head? = some '=')
    (harrow : rest.head? = some '>' ↔ rest'.head? = some '>') :
    equalsToken rest = equalsToken rest' := by
  by_cases h : rest.head? = some '='
  · unfold equalsToken
    rw [h, hequals.1 h]
  by_cases h' : rest.head? = some '>'
  · unfold equalsToken
    rw [h', harrow.1 h']
  rw [equalsToken_of_not, equalsToken_of_not]
  · rintro ⟨d, rfl | rfl, hd⟩
    · exact h (hequals.2 hd)
    · exact h' (harrow.2 hd)
  · rintro ⟨d, rfl | rfl, hd⟩
    · exact h hd
    · exact h' hd

/-- The token of an equals sign is the same in a blanked text. -/
theorem equalsToken_blanked (rest : Text) :
    equalsToken (Literal.blankedFrom [] 0 seen rest) = equalsToken rest := by
  have hsame (d : Char) (hd : d ∉ ['\x27', '\x22', '/', 'r', 'R']) (hspace : d ≠ ' ') :
      (Literal.blankedFrom [] 0 seen rest).head? = some d ↔ rest.head? = some d :=
    ⟨fun h => (Literal.head?_blankedFrom h).resolve_left hspace,
      Literal.head?_blankedFrom_of_code hd⟩
  exact equalsToken_of_head? (hsame '=' (by decide) (by decide)) (hsame '>' (by decide) (by decide))

/-- At a code character only the identifier before it and the token of an equals sign count. -/
theorem code_of_alike (s : Scan) (c : Char)
    (hseen : seen.takeWhile isIdentifierChar = seen'.takeWhile isIdentifierChar)
    (hrest : equalsToken rest = equalsToken rest') : s.code seen c rest = s.code seen' c rest' := by
  unfold code opensArguments endingWord
  rw [hseen, hrest]

/-! ## The two scans -/

/-- What is asked of a scan and the characters before it, and of those before the scan of the
blanked text: they end in the same identifier; or a literal is open, and the other scan waits after
the space for it, with the gap noted. -/
def Waits (s : Scan) (seen seen' : Text) : Prop :=
  (s.literals = [] → seen.takeWhile isIdentifierChar = seen'.takeWhile isIdentifierChar) ∧
    (s.literals ≠ [] → seen'.takeWhile isIdentifierChar = [] ∧ s.leading.blank = s.leading)

/-- After a part of a literal the other scan waits, or it has waited long enough: a literal ends in
no identifier. -/
theorem waits_of_consumed {width : Nat} {next : Literal.Stack}
    (consumed : Literal.step s.literals seen.head? c (more ++ rest) = (.consumed width, next))
    (covers : (more ++ rest).take (width - 1) = more)
    (hseen' : seen'.takeWhile isIdentifierChar = []) :
    Waits { s with literals := next, leading := s.leading.blank } (more.reverse ++ c :: seen)
      seen' := by
  refine ⟨fun hnext => ?_, fun _ => ⟨hseen', s.leading.blank_blank⟩⟩
  obtain rfl : next = [] := hnext
  rw [hseen', takeWhile_of_head? (Literal.consumed_ends_outside seen consumed covers)]

/-- Characters that end in the same identifier do so with the same characters after them. -/
theorem takeWhile_append_alike (more : Text)
    (h : seen.takeWhile isIdentifierChar = seen'.takeWhile isIdentifierChar) :
    (more ++ seen).takeWhile isIdentifierChar = (more ++ seen').takeWhile isIdentifierChar := by
  induction more with
  | nil => exact h
  | cons d more ih =>
    rw [List.cons_append, List.cons_append, List.takeWhile_cons, List.takeWhile_cons, ih]

/-- After code neither scan waits for the other. -/
theorem waits_of_code (hs : s.literals = []) (c : Char) (more : Text)
    (h : seen.takeWhile isIdentifierChar = seen'.takeWhile isIdentifierChar) :
    Waits s (more.reverse ++ c :: seen) (more.reverse ++ c :: seen') :=
  ⟨fun _ => takeWhile_append_alike _ (takeWhile_append_alike [c] h), fun hne => absurd hs hne⟩

/-- A step at a code character answers no more than there is. -/
theorem width_of_covered_code (code : Literal.step s.literals seen.head? c (more ++ way) =
    (.code, [])) (covers : (more ++ way).take ((stride s seen c (more ++ way)).1 - 1) = more) :
    (stride s seen c (more ++ way)).1 = more.length + 1 := by
  have hout : (stride s seen c (more ++ way)).2.literals = [] := by
    rw [literals_stride, code]
  have hle := width_stride_le hout
  have hpos : 0 < (stride s seen c (more ++ way)).1 := by
    rw [width_of_code code]
    split_ifs
    · unfold equalsToken
      split <;> exact Nat.succ_pos _
    · exact Nat.one_pos
  have hlen := congrArg List.length covers
  rw [List.length_take] at hlen
  omega

/-- Code that is covered together is kept together. -/
theorem blankedFrom_covered_code (code : Literal.step s.literals seen.head? c (more ++ way) =
    (.code, [])) (covers : (more ++ way).take ((stride s seen c (more ++ way)).1 - 1) = more) :
    Literal.blankedFrom s.literals 0 seen (c :: (more ++ way)) =
      c :: (more ++ Literal.blankedFrom [] 0 (more.reverse ++ c :: seen) way) := by
  rw [Literal.blankedFrom_code code]
  rcases covered_of_code code covers with rfl | ⟨d, hd, rfl⟩
  · rfl
  · have hnext : Literal.step [] (c :: seen).head? d way = (.code, []) :=
      Literal.step_of_not_mem (by rcases hd with rfl | rfl <;> decide)
    rw [List.singleton_append, Literal.blankedFrom_code hnext]
    rfl

/-- A step at a code character is the same in a blanked text. -/
theorem stride_blanked (hseen : seen.takeWhile isIdentifierChar = seen'.takeWhile isIdentifierChar)
    (code : Literal.step s.literals seen.head? c rest = (.code, [])) (before : Text) :
    stride s seen' c (Literal.blankedFrom [] 0 before rest) = stride s seen c rest := by
  have houtside := (Literal.step_eq_code code).1
  have hbefore : seen.head?.any isIdentifierChar = seen'.head?.any isIdentifierChar :=
    any_head?_of_takeWhile hseen
  have hcode : Literal.step s.literals seen'.head? c (Literal.blankedFrom [] 0 before rest) =
      (.code, []) := by
    rw [houtside] at code ⊢
    exact Literal.step_blanked hbefore code
  rw [stride_of_code code, stride_of_code hcode]
  exact code_of_alike _ c hseen.symm (equalsToken_blanked rest)

/-- A scan of a blanked text goes along with the scan of the text. -/
theorem path_blanked (hpath : Text.Path id stride anyStep s seen way [] t)
    (hwaits : Waits s seen seen') :
    Text.Path id stride anyStep s.withoutLiterals seen'
      (Literal.blankedFrom s.literals 0 seen way) [] t.withoutLiterals := by
  generalize hrest : ([] : Text) = rest at hpath
  induction hpath generalizing seen' with
  | stay => exact .stay
  | @step s t seen more way rest c _ covers _ ih =>
    subst hrest
    rw [List.append_nil] at covers ih
    rcases hstep : Literal.step s.literals seen.head? c (more ++ way) with ⟨answer, next⟩
    cases answer with
    | consumed width =>
      rw [id, width_of_consumed hstep] at covers
      rw [stride_of_consumed hstep] at ih
      rw [Literal.blankedFrom_consumed hstep covers]
      by_cases hopens : s.literals = []
      · -- The other scan takes a step over the space.
        rw [if_pos hopens, List.singleton_append]
        have hspace : stride s.withoutLiterals seen' ' '
            (Literal.blankedFrom next 0 (more.reverse ++ c :: seen) way) =
            (1, { s.withoutLiterals with leading := s.leading.blank }) :=
          stride_blank (Literal.step_of_not_mem (by decide)) (by decide)
        refine .cons_one trivial (by rw [List.append_nil]; exact hspace) rfl ?_
        exact ih (waits_of_consumed hstep covers rfl) rfl
      · -- The other scan has taken its step, and the gap is there.
        obtain ⟨hseen', hgap⟩ := hwaits.2 hopens
        rw [if_neg hopens, List.nil_append]
        have honward := ih (waits_of_consumed hstep covers hseen') rfl
        unfold withoutLiterals at honward ⊢
        rwa [hgap] at honward
    | code =>
      -- Both scans take the same step, and the blanks in place of literals come later.
      obtain ⟨houtside, rfl⟩ := Literal.step_eq_code hstep
      have hnext : (stride s seen c (more ++ way)).2.literals = [] := by
        rw [literals_stride, hstep]
      have hblanked := blankedFrom_covered_code hstep covers
      have hrest : more ++ Literal.blankedFrom [] 0 (more.reverse ++ c :: seen) way =
          Literal.blankedFrom [] 0 (c :: seen) (more ++ way) := by
        have hfirst := Literal.blankedFrom_code hstep
        rw [hblanked] at hfirst
        exact (List.cons.inj hfirst).2
      have htakes := stride_blanked (hwaits.1 houtside) hstep (c :: seen)
      rw [← hrest] at htakes
      have honward := ih (waits_of_code hnext c more (hwaits.1 houtside)) rfl
      rw [withoutLiterals_of_nil hnext, hnext] at honward
      rw [withoutLiterals_of_nil houtside, hblanked]
      exact .cons more trivial (by rw [List.append_nil]; exact htakes)
        (width_of_covered_code hstep covers) honward

/-- The scan of a blanked text ends as the scan of the text does, but for the literals. -/
theorem ofText_blanked (t : Text) : ofText (Literal.blanked t) = (ofText t).withoutLiterals := by
  have hwaits : Waits start [] [] := ⟨fun _ => rfl, fun hne => absurd rfl hne⟩
  have hpath := (path_blanked (Text.path_walk start [] t) hwaits).walk_eq
  rw [List.append_nil] at hpath
  exact hpath

end Scan

/-- The shape of a text is the one with a space in place of each of its literals. -/
theorem shape_blanked (strip : Bool) (t : Text) :
    Shape.ofText strip (Literal.blanked t) = Shape.ofText strip t := by
  rw [Shape.ofText, Shape.ofText, Scan.ofText_blanked]
  rfl

end MemberOutline.Shape
