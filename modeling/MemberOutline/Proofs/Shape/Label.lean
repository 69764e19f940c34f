import MemberOutline.Proofs.Shape.Coupling
import MemberOutline.Proofs.Shape.Lexemes
import MemberOutline.Proofs.Shape.Spacing

/-!
# The leading text as code

With its type arguments kept and its spaces left out, a leading text consists of the first lexemes
of the code without blanks and without signs: `=`, `==`, `=>` and `;`. The main statement is
`leadingText_of_lexemes`. Signs are left out because a sign at depth zero ends the leading text and
one inside a group is not taken up, so a leading text in whose groups there are none is the code
itself up to its end, and any other is not (`leadingText_of_defaultArgument`).

`Labels` is the invariant: it relates the leading text to the lexemes that the scan has taken up.
All of them are in it while it is collected, and the first of them once it is complete.
-/

namespace MemberOutline.Shape

open Text (isBlank)

/-- The lexemes that no leading text takes up. -/
def signs : List Text := [['='], ['=', '='], ['=', '>'], [';']]

/-- The lexemes that can end a leading text: the signs and the openers. -/
def boundaries : List Text := signs ++ [['('], ['['], ['{']]

/-- What a leading text takes up of lexemes: all but the signs and the blanks. -/
def labelOf (read : List Text) : Text :=
  (read.filter (!signs.contains ·)).flatten.filter (!isBlank ·)

/-- What is taken up of lexemes one after the other. -/
theorem labelOf_append (read us : List Text) :
    labelOf (read ++ us) = labelOf read ++ labelOf us := by
  unfold labelOf
  rw [List.filter_append, List.flatten_append, List.filter_append]

/-- A character that is neither a sign nor a blank is taken up. -/
theorem labelOf_singleton {c : Char} (hsign : [c] ∉ signs) (hblank : isBlank c = false) :
    labelOf [[c]] = [c] := by
  simp [labelOf, hsign, hblank]

/-- A sign is not taken up. -/
theorem labelOf_sign {u : Text} (hsign : u ∈ signs) : labelOf [u] = [] := by
  simp [labelOf, hsign]

/-- A blank is not taken up. -/
theorem labelOf_blank {c : Char} (hblank : isBlank c = true) : labelOf [[c]] = [] := by
  unfold labelOf
  by_cases hsign : [c] ∈ signs
  · simp [hsign]
  · simp [hsign, hblank]

namespace LeadingText

/-- The characters of a leading text but for its spaces. -/
def label (l : LeadingText) : Text := (l.collected.render false).withoutSpaces

variable (l : LeadingText) {c : Char}

/-- A text of one character that is no space has no space to leave out. -/
theorem withoutSpaces_singleton (hblank : isBlank c = false) : Text.withoutSpaces [c] = [c] := by
  have hspace : c ≠ ' ' := by
    rintro rfl
    exact absurd hblank (by decide)
  simp [Text.withoutSpaces, hspace]

/-- A character is added to a leading text that is not complete. -/
theorem label_add (hopen : l.outermost? ≠ none) (hblank : isBlank c = false) :
    (l.add c).label = l.label ++ [c] := by
  rw [← withoutSpaces_singleton hblank]
  cases l with
  | outside collected gap =>
    simp only [label, add, LeadingText.collected, giveUp, Collected.render,
      Text.withoutSpaces_append, withoutSpaces_spaced, List.append_assoc]
  | inside collected arguments gap =>
    simp only [label, add, LeadingText.collected, giveUp, Collected.render,
      Text.withoutSpaces_append, withoutSpaces_spaced, List.append_assoc]
  | ended collected => exact absurd rfl hopen

/-- A blank adds nothing to a leading text. -/
theorem label_blank : l.blank.label = l.label := by
  cases l <;> rfl

/-- Giving up type arguments changes nothing in what is collected. -/
theorem collected_giveUp : l.giveUp.collected = l.collected := by
  cases l <;> rfl

/-- Type arguments that are given up remain. -/
theorem label_giveUp : l.giveUp.label = l.label := by
  unfold label
  rw [collected_giveUp]

/-- A leading text that is complete remains. -/
theorem label_finish : l.finish.label = l.label := rfl

/-- Type arguments begin with their `<`. -/
theorem label_enter (houtside : l.outermost? = some none) : l.enter.label = l.label ++ ['<'] := by
  cases l with
  | outside collected gap =>
    simp only [label, enter, LeadingText.collected, giveUp, Collected.render,
      Text.withoutSpaces_append, List.append_assoc]
    rfl
  | inside collected arguments gap => cases houtside
  | ended collected => cases houtside

/-- Type arguments end with their `>`. -/
theorem label_leave (hopen : l.outermost? ≠ none) : l.leave.label = l.label ++ ['>'] := by
  cases l with
  | outside collected gap => exact label_add _ hopen (by decide)
  | inside collected arguments gap =>
    simp [label, leave, LeadingText.collected, giveUp, Collected.render, withoutSpaces_spaced,
      withoutSpaces_singleton (c := '>') (by decide)]
  | ended collected => exact absurd rfl hopen

/-- What is done to a leading text that is complete changes nothing. -/
theorem eq_self_of_ended {f : LeadingText → LeadingText} (hended : l.outermost? = none)
    (hf : ∀ collected, f (.ended collected) = .ended collected) : f l = l := by
  cases l with
  | outside collected gap => cases hended
  | inside collected arguments gap => cases hended
  | ended collected => exact hf collected

end LeadingText

/-! ## The invariant -/

/-- A leading text has taken up the first of the lexemes that were read: all of them if it is not
complete, and those before a boundary if it is. -/
def Labels (l : LeadingText) (read : List Text) : Prop :=
  ∃ before after, read = before ++ after ∧ l.label = labelOf before ∧
    (l.outermost? ≠ none → after = []) ∧ (l.outermost? = none → ∃ u ∈ after.head?, u ∈ boundaries)

namespace Labels

variable {l : LeadingText} {read us : List Text} {c : Char}

/-- Lexemes that begin with a boundary do so with further ones after them. -/
theorem head?_append {after : List Text} (h : ∃ u ∈ after.head?, u ∈ boundaries) (us : List Text) :
    ∃ u ∈ (after ++ us).head?, u ∈ boundaries := by
  obtain ⟨u, hu, hboundary⟩ := h
  exact ⟨u, List.mem_head?_append_of_mem_head? hu, hboundary⟩

/-- The leading text goes on with what is taken up of further lexemes, unless it is complete. -/
theorem extend {f : LeadingText → LeadingText} (h : Labels l read)
    (ended : ∀ collected, f (.ended collected) = .ended collected)
    (goesOn : l.outermost? ≠ none →
      (f l).outermost? ≠ none ∧ (f l).label = l.label ++ labelOf us) :
    Labels (f l) (read ++ us) := by
  obtain ⟨before, after, rfl, hlabel, hafter, hboundary⟩ := h
  by_cases hended : l.outermost? = none
  · rw [l.eq_self_of_ended hended ended]
    exact ⟨before, after ++ us, List.append_assoc .., hlabel, fun hopen => absurd hended hopen,
      fun _ => head?_append (hboundary hended) us⟩
  · obtain rfl := hafter hended
    obtain ⟨hopen, hgoesOn⟩ := goesOn hended
    refine ⟨before ++ us, [], by simp, ?_, fun _ => rfl, fun hended => absurd hended hopen⟩
    rw [hgoesOn, hlabel, labelOf_append]

/-- A leading text has taken up the first lexemes also of those with more after them of which
nothing is taken up. -/
theorem skip (h : Labels l read) (hnone : labelOf us = []) : Labels l (read ++ us) :=
  h.extend (f := id) (fun _ => rfl) fun hopen =>
    ⟨hopen, by rw [hnone, List.append_nil, id]⟩

/-- A leading text takes up the lexeme of a character by adding that character. -/
theorem add (h : Labels l read) (hsign : [c] ∉ signs) (hblank : isBlank c = false) :
    Labels (l.add c) (read ++ [[c]]) :=
  h.extend (fun _ => rfl) fun hopen =>
    ⟨by rwa [l.outermost?_add], by
      rw [labelOf_singleton hsign hblank, l.label_add hopen hblank]⟩

/-- A leading text takes up the lexemes of blanks by noting a gap. -/
theorem blank (h : Labels l read) (hnone : labelOf us = []) : Labels l.blank (read ++ us) :=
  h.extend (fun _ => rfl) fun hopen =>
    ⟨by rwa [l.outermost?_blank], by rw [hnone, List.append_nil, l.label_blank]⟩

/-- A leading text outside type arguments takes up a `<` by opening some. -/
theorem enter (h : Labels l read) (houtside : ∀ o ∈ l.outermost?, o = none) :
    Labels l.enter (read ++ [['<']]) := by
  refine h.extend (fun _ => rfl) fun hopen => ?_
  obtain ⟨o, ho⟩ := Option.ne_none_iff_exists'.1 hopen
  rw [houtside o ho] at ho
  rw [l.outermost?_enter, ho, l.label_enter ho]
  exact ⟨Option.some_ne_none _, rfl⟩

/-- A leading text takes up a `>` by completing its type arguments. -/
theorem leave (h : Labels l read) : Labels l.leave (read ++ [['>']]) :=
  h.extend (fun _ => rfl) fun hopen =>
    ⟨by simpa using hopen, l.label_leave hopen⟩

/-- A leading text has taken up the same lexemes when its type arguments are given up. -/
theorem giveUp (h : Labels l read) : Labels l.giveUp read := by
  rw [← List.append_nil read]
  refine h.extend (fun _ => rfl) fun hopen => ⟨by simpa using hopen, ?_⟩
  rw [l.label_giveUp]
  exact (List.append_nil l.label).symm

/-- A leading text that ends at a boundary has taken up the lexemes before that. -/
theorem finish (h : Labels l read) {u : Text} (hu : u ∈ boundaries) :
    Labels l.finish (read ++ [u]) := by
  obtain ⟨before, after, rfl, hlabel, hafter, hboundary⟩ := h
  refine ⟨before, after ++ [u], List.append_assoc .., l.label_finish.trans hlabel,
    fun hopen => absurd rfl hopen, fun _ => ?_⟩
  by_cases hended : l.outermost? = none
  · exact head?_append (hboundary hended) [u]
  · rw [hafter hended]
    exact ⟨u, rfl, hu⟩

end Labels

namespace Scan

variable {s : Scan} {read : List Text} {c : Char} {g : Group}

/-! ## The parts of a step -/

/-- Angles that are given up remain in the leading text. -/
theorem labels_giveUpAngles (h : Labels s.leading read) : Labels s.giveUpAngles.leading read := by
  by_cases hdrop : s.groups.dropWhile (· = .angle) = []
  · rw [giveUpAngles_of_all_angles hdrop]
    exact h.giveUp
  · rw [giveUpAngles_of_other hdrop]
    exact h

/-- Angles that are settled remain in the leading text. -/
theorem labels_settle (h : Labels s.leading read) (c : Char) :
    Labels (s.settle c).leading read := by
  unfold settle
  split_ifs
  · exact labels_giveUpAngles h
  · exact h

/-- A sign ends the leading text or is not taken up. -/
theorem labels_report (h : Labels s.leading read) {token : Text} (hsign : token ∈ signs) :
    Labels (s.report token).leading (read ++ [token]) := by
  unfold report
  split_ifs
  · exact h.finish (List.mem_append_left _ hsign)
  · exact h.skip (labelOf_sign hsign)

/-- An opener ends the leading text or is taken up. -/
theorem labels_openGroup (h : Labels s.leading read) (hc : Group.ofOpener? c = some g) :
    Labels (s.openGroup c g).leading (read ++ [[c]]) := by
  have hboundary : [c] ∈ boundaries ∧ [c] ∉ signs ∧ isBlank c = false := by
    rcases Group.ofOpener?_eq_some_iff.1 hc with ⟨rfl, -⟩ | ⟨rfl, -⟩ | ⟨rfl, -⟩ <;> decide
  by_cases hnil : s.groups = []
  · rw [openGroup_of_nil hnil]
    exact h.finish hboundary.1
  · rw [openGroup_of_ne_nil hnil]
    exact h.add hboundary.2.1 hboundary.2.2

/-- A closer is taken up. -/
theorem labels_closeGroup (h : Labels s.leading read) (hc : Group.ofCloser? c = some g) :
    Labels (s.closeGroup c g).leading (read ++ [[c]]) := by
  have hplain : [c] ∉ signs ∧ isBlank c = false := by
    rcases Group.ofCloser?_eq_some_iff.1 hc with ⟨rfl, -⟩ | ⟨rfl, -⟩ | ⟨rfl, -⟩ <;> decide
  unfold closeGroup
  simp only
  split_ifs
  · rw [leading_closeInnermost]
    exact (labels_giveUpAngles h).add hplain.1 hplain.2
  · exact (labels_giveUpAngles h).add hplain.1 hplain.2

/-- The `<` of type arguments is taken up. -/
theorem labels_openAngle (hcoupled : s.Coupled) (h : Labels s.leading read) :
    Labels s.openAngle.leading (read ++ [['<']]) := by
  unfold openAngle
  simp only
  split_ifs with hnil
  · refine h.enter fun o ho => ?_
    rw [← hcoupled o ho, hnil]
    rfl
  · exact h.add (by decide) (by decide)

/-- The `>` of type arguments is taken up. -/
theorem labels_closeAngle (h : Labels s.leading read) :
    Labels s.closeAngle.leading (read ++ [['>']]) := by
  by_cases hnil : s.groups.tail = []
  · rw [closeAngle_of_nil hnil]
    exact h.leave
  · rw [closeAngle_of_ne_nil hnil]
    exact h.add (by decide) (by decide)

/-- A character that is neither a sign nor a bracket is taken up unless it is a blank. -/
theorem labels_plain (h : Labels s.leading read) (notEquals : c ≠ '=') (notSemicolon : c ≠ ';') :
    Labels (s.plain c).leading (read ++ [[c]]) := by
  unfold plain
  simp only
  split_ifs with hblank
  · exact h.blank (labelOf_blank hblank)
  · exact h.add (by simp [signs, notEquals, notSemicolon]) (Bool.eq_false_iff.2 hblank)

/-! ## A step and a walk -/

/-- The token of an equals sign is a sign. -/
theorem equalsToken_mem_signs (rest : Text) : equalsToken rest ∈ signs := by
  unfold equalsToken
  split <;> decide

/-- Every step takes up the lexeme that it reads, as long as the leading text is not complete. -/
theorem labels_stride (seen : Text) (c : Char) (rest : Text) (hcoupled : s.Coupled)
    (h : Labels s.leading read) :
    Labels (stride s seen c rest).2.leading (read ++ taken s seen c rest) := by
  have hmove := stride_move s seen c rest
  generalize stride s seen c rest = answer at hmove
  have hsettled := labels_settle h c
  cases hmove with
  | literal consumed =>
    rw [taken_of_consumed consumed]
    exact h.blank rfl
  | equals code hc =>
    subst hc
    rw [taken_of_equals code]
    exact labels_report hsettled (equalsToken_mem_signs rest)
  | semicolon code hc =>
    subst hc
    rw [taken_of_code code (by decide)]
    exact labels_report hsettled (by decide)
  | opener code hc =>
    rw [taken_of_code code (by rintro rfl; cases hc)]
    exact labels_openGroup hsettled hc
  | closer code hc =>
    rw [taken_of_code code (by rintro rfl; cases hc)]
    exact labels_closeGroup hsettled hc
  | openAngle code hc _ =>
    subst hc
    rw [taken_of_code code (by decide)]
    exact labels_openAngle (hcoupled.settle '<') hsettled
  | closeAngle code hc _ =>
    subst hc
    rw [taken_of_code code (by decide)]
    exact labels_closeAngle hsettled
  | plain code notEquals notSemicolon _ _ _ _ =>
    rw [taken_of_code code notEquals]
    exact labels_plain hsettled notEquals notSemicolon

/-- The leading text of a scan is made of the first lexemes of the code. -/
theorem labels_ofText (t : Text) :
    Labels (ofText t).leading (lexemes (Literal.codeView t)) := by
  refine (ofText_lexemes (fun s read => s.Coupled ∧ Labels s.leading read) ?_ ?_ t).2
  · rintro s seen c rest read ⟨hcoupled, h⟩
    exact ⟨hcoupled.stride seen c rest, labels_stride seen c rest hcoupled h⟩
  · exact ⟨coupled_start, [], [], rfl, rfl, fun _ => rfl, fun hended => by cases hended⟩

end Scan

/-! ## The leading text -/

/-- The lexemes of a view have all its code. -/
theorem flatten_lexemes (view : List (Option Char)) :
    (lexemes view).flatten = view.reduceOption := by
  induction view using lexemes.induct with
  | case1 => rfl
  | case2 view ih => rw [lexemes, ih]; rfl
  | case3 view ih => rw [lexemes, List.flatten_cons, ih]; rfl
  | case4 view ih => rw [lexemes, List.flatten_cons, ih]; rfl
  | case5 c view hequals harrow ih =>
    rw [lexemes, List.flatten_cons, ih]
    · rfl
    · exact hequals
    · exact harrow

/-- The code characters of a text. -/
def codeText (t : Text) : Text := (Literal.codeView t).reduceOption

/-- With its type arguments and without its spaces, the leading text consists of the first lexemes
of the code without blanks and signs, up to a boundary or the end. If no sign is among them, it is
the beginning of the code without blanks. -/
theorem leadingText_of_lexemes (t : Text) :
    ∃ before after, lexemes (Literal.codeView t) = before ++ after ∧
      (∀ u ∈ after.head?, u ∈ boundaries) ∧
      (Shape.ofText false t).leadingText.withoutSpaces = labelOf before ∧
      ((∀ u ∈ before, u ∉ signs) →
        (Shape.ofText false t).leadingText.withoutSpaces <+:
          (codeText t).filter (!isBlank ·)) := by
  obtain ⟨before, after, hread, hlabel, hafter, hboundary⟩ := Scan.labels_ofText t
  have hleading : (Shape.ofText false t).leadingText.withoutSpaces = labelOf before := hlabel
  refine ⟨before, after, hread, ?_, hleading, fun hnone => ?_⟩
  · intro u hu
    by_cases hended : (Scan.ofText t).leading.outermost? = none
    · obtain ⟨v, hv, hmem⟩ := hboundary hended
      obtain rfl : v = u := Option.mem_unique hv hu
      exact hmem
    · rw [hafter hended] at hu
      cases hu
  · have hbefore : before.filter (!signs.contains ·) = before := by
      rw [List.filter_eq_self]
      exact fun u hu => by simpa using hnone u hu
    rw [hleading, labelOf, hbefore, codeText, ← flatten_lexemes, hread, List.flatten_append,
      List.filter_append]
    exact List.prefix_append _ _

/-- An equals sign between round brackets inside type arguments is left out, so the leading text is
no beginning of the code. -/
theorem leadingText_of_defaultArgument :
    (Shape.ofText false "T<F(a = b)> x;".toList).leadingText = "T<F(a b)> x".toList ∧
      ¬ (Shape.ofText false "T<F(a = b)> x;".toList).leadingText.withoutSpaces <+:
          (codeText "T<F(a = b)> x;".toList).filter (!isBlank ·) := by
  decide

end MemberOutline.Shape
