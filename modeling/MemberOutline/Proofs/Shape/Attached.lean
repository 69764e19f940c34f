import MemberOutline.Proofs.Shape.Lexemes
import MemberOutline.Proofs.Shape.Silence

/-!
# Type arguments are attached to words

Type arguments open directly after an identifier, so in the leading text they stand directly after
a character of one (`Collected.Attached`). Every step keeps this of the leading text
(`Scan.Attached.stride`): where the scan stands after an identifier, what is collected ends in it.
-/

namespace MemberOutline.Shape

open Text (anyStep isBlank isIdentifierChar)

/-- A text does not end in a blank. -/
def EndsSolid (t : Text) : Prop := ∀ c ∈ t.getLast?, isBlank c = false

/-- A text ends in a character of an identifier. -/
def EndsNamed (t : Text) : Prop := t.getLast?.any isIdentifierChar = true

/-- A text that ends in a character of an identifier is not empty. -/
theorem EndsNamed.ne_nil {t : Text} (h : EndsNamed t) : t ≠ [] := by
  rintro rfl
  cases h

/-- A text that ends in a character of an identifier does not end in a blank. -/
theorem EndsNamed.solid {t : Text} (h : EndsNamed t) : EndsSolid t := by
  intro c hc
  rw [EndsNamed, Option.mem_def.1 hc, Option.any_some] at h
  rw [Bool.eq_false_iff]
  intro hblank
  rw [not_isIdentifierChar_of_isBlank hblank] at h
  cases h

/-- Type arguments in a text are attached to a word: they stand directly after an identifier, and
they go from a `<` to a `>`. The text does not end in a blank. -/
structure Collected.Attached (collected : Collected) : Prop where
  /-- Before type arguments there is a text that ends in a character of an identifier. -/
  before : ∀ p ∈ collected.groups, EndsNamed p.1
  /-- Type arguments begin with a `<`. -/
  first : ∀ p ∈ collected.groups, p.2.head? = some '<'
  /-- Type arguments end in a `>`. -/
  last : ∀ p ∈ collected.groups, p.2.getLast? = some '>'
  /-- The text after the last ones does not end in a blank. -/
  after : EndsSolid collected.text

variable {l l' : LeadingText} {c : Char} {seen rest more after : Text}

/-- A character that is taken up is the last one. -/
theorem getLast?_append_spaced (t : Text) (gap : Bool) (c : Char) :
    (t ++ LeadingText.spaced gap c).getLast? = some c := by
  cases gap
  · exact List.getLast?_concat
  · exact List.getLast?_append_of_ne_nil t (List.cons_ne_nil ' ' [c])

namespace LeadingText

/-- A leading text whose type arguments are given up is what it collects in all, with or without a
gap, or at its end. -/
theorem giveUp_eq (l : LeadingText) :
    (∃ gap, l.giveUp = .outside l.collected gap) ∨ l.giveUp = .ended l.collected := by
  cases l with
  | outside collected gap => exact .inl ⟨gap, rfl⟩
  | inside collected arguments gap => exact .inl ⟨gap, rfl⟩
  | ended collected => exact .inr rfl

/-- The type arguments in a leading text are attached to words, and so are those that it stands
in. -/
def Attached : LeadingText → Prop
  | .outside collected _ => collected.Attached
  | .inside collected arguments _ =>
    collected.Attached ∧ EndsNamed collected.text ∧ arguments.head? = some '<' ∧
      EndsSolid arguments
  | .ended collected => collected.Attached

/-- What a leading text has collected since its last type arguments, or in the ones that it stands
in, ends in a character of an identifier. -/
def EndsNamed : LeadingText → Prop
  | .outside collected _ => Shape.EndsNamed collected.text
  | .inside _ arguments _ => Shape.EndsNamed arguments
  | .ended _ => True

namespace Attached

/-- A character that is not blank may be taken up. -/
theorem add (h : l.Attached) (hc : isBlank c = false) : (l.add c).Attached := by
  have hsolid (t : Text) (gap : Bool) : EndsSolid (t ++ spaced gap c) := by
    intro d hd
    rw [getLast?_append_spaced] at hd
    cases hd
    exact hc
  cases l with
  | outside collected gap => exact ⟨h.before, h.first, h.last, hsolid _ _⟩
  | inside collected arguments gap =>
    obtain ⟨hcollected, htext, hfirst, -⟩ := h
    refine ⟨hcollected, htext, ?_, hsolid _ _⟩
    rw [List.head?_append, hfirst]
    rfl
  | ended collected => exact h

/-- A blank is only noted. -/
theorem blank (h : l.Attached) : l.blank.Attached := by
  cases l <;> exact h

/-- Type arguments may open after an identifier. -/
theorem enter (h : l.Attached) (hnamed : l.EndsNamed) : l.enter.Attached := by
  cases l with
  | outside collected gap =>
    refine ⟨h, hnamed, rfl, fun d hd => ?_⟩
    cases hd
    decide
  | inside collected arguments gap => exact h
  | ended collected => exact h

/-- Type arguments that close are attached to the text before them. -/
theorem leave (h : l.Attached) : l.leave.Attached := by
  cases l with
  | outside collected gap => exact h.add (by decide)
  | inside collected arguments gap =>
    obtain ⟨hcollected, htext, hfirst, -⟩ := h
    have hpair (p : Text × Text)
        (hp : p ∈ collected.groups ++ [(collected.text, arguments ++ spaced gap '>')]) :
        p ∈ collected.groups ∨ p = (collected.text, arguments ++ spaced gap '>') := by
      simpa using hp
    refine ⟨fun p hp => ?_, fun p hp => ?_, fun p hp => ?_, fun d hd => by cases hd⟩
    · rcases hpair p hp with hp | rfl
      · exact hcollected.before p hp
      · exact htext
    · rcases hpair p hp with hp | rfl
      · exact hcollected.first p hp
      · rw [List.head?_append, hfirst]
        rfl
    · rcases hpair p hp with hp | rfl
      · exact hcollected.last p hp
      · exact getLast?_append_spaced _ _ _
  | ended collected => exact h

/-- Type arguments that are given up become part of the text. -/
theorem giveUp (h : l.Attached) : l.giveUp.Attached := by
  cases l with
  | outside collected gap => exact h
  | inside collected arguments gap =>
    obtain ⟨hcollected, htext, hfirst, hsolid⟩ := h
    refine ⟨hcollected.before, hcollected.first, hcollected.last, fun d hd => ?_⟩
    have hne : arguments ≠ [] := by
      rintro rfl
      cases hfirst
    rw [List.getLast?_append_of_ne_nil _ hne] at hd
    exact hsolid d hd
  | ended collected => exact h

/-- If the type arguments in a leading text are attached to words, they are so in all that it
collects. -/
theorem collected (h : l.Attached) : l.collected.Attached := by
  have hgiven := h.giveUp
  rcases l.giveUp_eq with ⟨gap, hl⟩ | hl <;> rwa [hl] at hgiven

end Attached

/-- What is collected still ends in a character of an identifier when type arguments are given
up. -/
theorem EndsNamed.giveUp (h : l.EndsNamed) : l.giveUp.EndsNamed := by
  cases l with
  | outside collected gap => exact h
  | inside collected arguments gap =>
    show Shape.EndsNamed (collected.text ++ arguments)
    rw [Shape.EndsNamed, List.getLast?_append_of_ne_nil _ (Shape.EndsNamed.ne_nil h)]
    exact h
  | ended collected => exact h

/-- A character that is taken up is the last one collected. -/
theorem EndsNamed.add (l : LeadingText) (hc : isIdentifierChar c = true) :
    (l.add c).EndsNamed := by
  have hends (t : Text) (gap : Bool) : Shape.EndsNamed (t ++ spaced gap c) := by
    rw [Shape.EndsNamed, getLast?_append_spaced]
    exact hc
  cases l with
  | outside collected gap => exact hends _ _
  | inside collected arguments gap => exact hends _ _
  | ended collected => exact trivial

end LeadingText

namespace Scan

variable {s : Scan}

/-! ## What a step does to the leading text -/

/-- What a code character does to the leading text, once the angles are settled or given up. One
that may end an identifier is taken up. -/
inductive LeadingMove (seen : Text) (c : Char) (l : LeadingText) : LeadingText → Prop
  /-- A token at depth zero ends it. -/
  | finish (hc : isIdentifierChar c = false) : LeadingMove seen c l l.finish
  /-- Another token is passed over. -/
  | skip (hc : isIdentifierChar c = false) : LeadingMove seen c l l
  /-- A blank is noted. -/
  | blank (hc : isIdentifierChar c = false) : LeadingMove seen c l l.blank
  /-- Type arguments open. -/
  | enter (hc : isIdentifierChar c = false) (opens : opensArguments seen = true) :
    LeadingMove seen c l l.enter
  /-- Type arguments close. -/
  | leave (hc : isIdentifierChar c = false) : LeadingMove seen c l l.leave
  /-- A character that is no blank is taken up. -/
  | add (hc : isBlank c = false) : LeadingMove seen c l (l.add c)

/-- Giving up angles leaves the leading text as it is or gives up its type arguments. -/
theorem leading_giveUpAngles (s : Scan) :
    s.giveUpAngles.leading = s.leading ∨ s.giveUpAngles.leading = s.leading.giveUp := by
  unfold giveUpAngles
  split
  · exact .inr rfl
  · exact .inl rfl

/-- Settling the angles leaves the leading text as it is or gives up its type arguments. -/
theorem leading_settle (s : Scan) (c : Char) :
    (s.settle c).leading = s.leading ∨ (s.settle c).leading = s.leading.giveUp := by
  unfold settle
  split_ifs
  · exact leading_giveUpAngles s
  · exact .inl rfl

/-- A code character moves the leading text. -/
theorem leading_stride_of_code (code : Literal.step s.literals seen.head? c rest = (.code, [])) :
    ∃ l, (l = s.leading ∨ l = s.leading.giveUp) ∧
      LeadingMove seen c l (stride s seen c rest).2.leading := by
  have hmove := stride_move s seen c rest
  generalize stride s seen c rest = answer at hmove
  have hsettled := leading_settle s c
  have hreport {c : Char} (hc : isIdentifierChar c = false) (t : Scan) (token : Text) :
      LeadingMove seen c t.leading (t.report token).leading := by
    unfold report
    split_ifs
    · exact .finish hc
    · exact .skip hc
  cases hmove with
  | literal consumed =>
    rw [code] at consumed
    cases consumed
  | equals _ hc =>
    subst hc
    exact ⟨_, hsettled, hreport (by decide) _ _⟩
  | semicolon _ hc =>
    subst hc
    exact ⟨_, hsettled, hreport (by decide) _ _⟩
  | opener _ hc =>
    have hchar : isIdentifierChar c = false ∧ isBlank c = false := by
      rcases Group.ofOpener?_eq_some_iff.1 hc with ⟨rfl, -⟩ | ⟨rfl, -⟩ | ⟨rfl, -⟩ <;> decide
    refine ⟨_, hsettled, ?_⟩
    by_cases hnil : (s.settle c).groups = []
    · rw [openGroup_of_nil hnil]
      exact .finish hchar.1
    · rw [openGroup_of_ne_nil hnil]
      exact .add hchar.2
  | closer _ hc =>
    have hblank : isBlank c = false := by
      rcases Group.ofCloser?_eq_some_iff.1 hc with ⟨rfl, -⟩ | ⟨rfl, -⟩ | ⟨rfl, -⟩ <;> decide
    refine ⟨s.giveUpAngles.leading, leading_giveUpAngles s, ?_⟩
    unfold closeGroup
    rw [giveUpAngles_settle]
    simp only
    split_ifs
    · rw [leading_closeInnermost]
      exact .add hblank
    · exact .add hblank
  | openAngle _ hc opens =>
    subst hc
    refine ⟨_, hsettled, ?_⟩
    unfold openAngle
    simp only
    split_ifs
    · exact .enter (by decide) opens
    · exact .add (by decide)
  | closeAngle _ hc _ =>
    subst hc
    refine ⟨_, hsettled, ?_⟩
    by_cases hnil : (s.settle '>').groups.tail = []
    · rw [closeAngle_of_nil hnil]
      exact .leave (by decide)
    · rw [closeAngle_of_ne_nil hnil]
      exact .add (by decide)
  | plain _ _ _ _ _ _ _ =>
    refine ⟨_, hsettled, ?_⟩
    unfold plain
    simp only
    split_ifs with hblank
    · exact .blank (not_isIdentifierChar_of_isBlank hblank)
    · exact .add (Bool.eq_false_iff.2 hblank)

/-! ## A step and a scan -/

/-- The type arguments in the leading text of a scan are attached to words, and where an identifier
ends before the scan, what is collected ends in an identifier. -/
def Attached (s : Scan) (seen : Text) : Prop :=
  s.leading.Attached ∧
    (s.literals = [] → seen.head?.any isIdentifierChar = true → s.leading.EndsNamed)

/-- A step leads past no identifier unless it takes up a character. -/
theorem head?_covered_of_code
    (code : Literal.step s.literals seen.head? c (more ++ after) = (.code, []))
    (covers : (more ++ after).take ((stride s seen c (more ++ after)).1 - 1) = more)
    (hc : isIdentifierChar c = false) :
    (more.reverse ++ c :: seen).head?.any isIdentifierChar = false := by
  rcases covered_of_code code covers with rfl | ⟨d, rfl | rfl, rfl⟩
  · exact hc
  · exact show isIdentifierChar '=' = false by decide
  · exact show isIdentifierChar '>' = false by decide

/-- Every step keeps type arguments attached. -/
theorem Attached.stride (h : s.Attached seen)
    (covers : (more ++ after).take ((stride s seen c (more ++ after)).1 - 1) = more) :
    (Scan.stride s seen c (more ++ after)).2.Attached (more.reverse ++ c :: seen) := by
  obtain ⟨hleading, hnamed⟩ := h
  rcases hstep : Literal.step s.literals seen.head? c (more ++ after) with ⟨answer, next⟩
  cases answer with
  | consumed width =>
    -- A literal ends in no identifier.
    rw [width_of_consumed hstep] at covers
    rw [stride_of_consumed hstep]
    refine ⟨hleading.blank, fun hnext hends => ?_⟩
    obtain rfl : next = [] := hnext
    rw [Literal.consumed_ends_outside seen hstep covers] at hends
    cases hends
  | code =>
    obtain ⟨houtside, rfl⟩ := Literal.step_eq_code hstep
    obtain ⟨l, hl, hmove⟩ := leading_stride_of_code hstep
    have hattached : l.Attached := by
      rcases hl with rfl | rfl
      · exact hleading
      · exact hleading.giveUp
    -- A character that is not of an identifier leaves the scan after none.
    have hends (hc : isIdentifierChar c = false) (l' : LeadingText)
        (hend : (more.reverse ++ c :: seen).head?.any isIdentifierChar = true) : l'.EndsNamed := by
      rw [head?_covered_of_code hstep covers hc] at hend
      cases hend
    unfold Attached
    generalize (Scan.stride s seen c (more ++ after)).2.leading = l' at hmove
    cases hmove with
    | finish hc => exact ⟨hattached.collected, fun _ => hends hc _⟩
    | skip hc => exact ⟨hattached, fun _ => hends hc _⟩
    | blank hc => exact ⟨hattached.blank, fun _ => hends hc _⟩
    | leave hc => exact ⟨hattached.leave, fun _ => hends hc _⟩
    | add hblank =>
      refine ⟨hattached.add hblank, fun _ hend => ?_⟩
      cases hc : isIdentifierChar c with
      | true => exact .add l hc
      | false => exact hends hc _ hend
    | enter hc opens =>
      refine ⟨hattached.enter ?_, fun _ => hends hc _⟩
      -- Type arguments open after an identifier, so what is collected ends in one.
      have hidentifier : seen.head?.any isIdentifierChar = true := by
        cases hhead : seen.head?.any isIdentifierChar with
        | true => rfl
        | false => simp [opensArguments, endingWord, takeWhile_of_head? hhead] at opens
      have hleft := hnamed houtside hidentifier
      rcases hl with rfl | rfl
      · exact hleft
      · exact hleft.giveUp

/-- A scan that starts has no type arguments yet. -/
theorem attached_start : start.Attached [] := by
  refine ⟨⟨?_, ?_, ?_, ?_⟩, fun _ h => by cases h⟩ <;> exact fun _ h => by cases h

/-- In the leading text of a scan all type arguments are attached to words. -/
theorem attached_ofText (t : Text) : (ofText t).leading.collected.Attached :=
  ((Text.path_walk start [] t).keeps_along (fun _ _ _ _ _ _ covers h => h.stride covers)
    attached_start).1.collected

end Scan

end MemberOutline.Shape
