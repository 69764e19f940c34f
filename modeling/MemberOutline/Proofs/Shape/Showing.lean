import MemberOutline.Proofs.Shape.Attached
import MemberOutline.Proofs.Shape.GroupBody
import MemberOutline.Proofs.Shape.Remains

/-!
# What a step shows

A step covers some places of the view of a text (`Scan.places`), and `Showing` lists what it does to
the leading text with them: it leaves a gap, takes a character up, passes over a sign, ends the
text, or opens or closes type arguments. Every step does one of these (`Scan.showing_stride`), and
the places that the steps cover are the view (`Scan.path_view`).
-/

namespace MemberOutline.Shape

open Text (anyStep isBlank isIdentifierChar)

namespace Scan

variable {s t : Scan} {seen more after way rest : Text} {c : Char}

/-! ## The view of a path -/

/-- What every step keeps of a scan, the characters before it and their view holds at the end of a
path, where the view goes on with the places of the path. -/
theorem path_view (Kept : Scan → Text → List (Option Char) → Prop) {via : Text.Condition Scan}
    {view : List (Option Char)}
    (step : ∀ s seen c more after view,
      (more ++ after).take ((stride s seen c (more ++ after)).1 - 1) = more → Kept s seen view →
      Kept (stride s seen c (more ++ after)).2 (more.reverse ++ c :: seen)
        (view ++ places s seen c more after))
    (hpath : Text.Path id stride via s seen way rest t) (h : Kept s seen view) :
    ∃ onward : List (Option Char), onward.length = way.length ∧
      Literal.codeFrom s.literals 0 seen (way ++ rest) =
        onward ++ Literal.codeFrom t.literals 0 (way.reverse ++ seen) rest ∧
      Kept t (way.reverse ++ seen) (view ++ onward) := by
  induction hpath generalizing view with
  | stay => exact ⟨[], rfl, rfl, by rw [List.append_nil]; exact h⟩
  | @step s t seen more way rest c _ covers _ ih =>
    obtain ⟨onward, hlength, hrest, hkept⟩ := ih (step _ _ _ _ _ _ covers h)
    refine ⟨places s seen c more (way ++ rest) ++ onward, ?_, ?_, ?_⟩
    · rw [List.length_append, length_places, hlength, List.length_cons, List.length_append]
      omega
    · rw [List.cons_append, List.append_assoc, codeFrom_stride covers, hrest]
      simp
    · simpa using hkept

end Scan

/-! ## What a step does to the leading text -/

/-- The characters that no leading text has. -/
def neverShown : List Char := ['=', ';', '\x27', '\x22']

/-- What a step that covers some places of the view does to the leading text, once the angles are
settled or given up. -/
inductive Showing (seen : Text) (l : LeadingText) : List (Option Char) → LeadingText → Prop
  /-- Blanks and literals leave a gap. -/
  | blank {gap : List (Option Char)} (hne : gap ≠ []) (hgap : ∀ x ∈ gap, separates x = true) :
    Showing seen l gap l.blank
  /-- A character is taken up. -/
  | add {c : Char} (hblank : isBlank c = false) (hnever : c ∉ neverShown) :
    Showing seen l [some c] (l.add c)
  /-- A sign is passed over. -/
  | skip {u : Text} (hu : u ∈ signs) : Showing seen l (u.map some) l
  /-- A token at depth zero ends the text. -/
  | finish {u : Text} (hu : u ∈ boundaries) : Showing seen l (u.map some) l.finish
  /-- Type arguments open outside others. -/
  | enter (opens : opensArguments seen = true) (outside : ∀ o ∈ l.outermost?, o = none) :
    Showing seen l [some '<'] l.enter
  /-- Type arguments close. -/
  | leave : Showing seen l [some '>'] l.leave

namespace Scan

variable {s t : Scan} {seen more after way rest : Text} {c : Char} {g : Group}

/-- A code character is no quote. -/
theorem not_quote_of_code (code : Literal.step s.literals seen.head? c rest = (.code, [])) :
    c ≠ '\x27' ∧ c ≠ '\x22' := by
  rw [(Literal.step_eq_code code).1] at code
  have hopens : Literal.opening? seen.head? c rest = none := by
    cases hopen : Literal.opening? seen.head? c rest with
    | none => rfl
    | some o => simp [Literal.step, hopen] at code
  have hquote := (Literal.opening?_eq_none_iff.1 hopens).1
  constructor <;> rintro rfl <;> cases hquote

/-- A token shows as a sign. -/
theorem showing_report (hu : c :: more ∈ signs) (s : Scan) :
    Showing seen s.leading ((c :: more).map some) (s.report (c :: more)).leading := by
  unfold report
  split_ifs
  · exact .finish (List.mem_append_left _ hu)
  · exact .skip hu

/-- An opener shows as a boundary or as itself. -/
theorem showing_openGroup (hc : Group.ofOpener? c = some g) (s : Scan) :
    Showing seen s.leading [some c] (s.openGroup c g).leading := by
  have hboundary : [c] ∈ boundaries ∧ c ∉ neverShown ∧ isBlank c = false := by
    rcases Group.ofOpener?_eq_some_iff.1 hc with ⟨rfl, -⟩ | ⟨rfl, -⟩ | ⟨rfl, -⟩ <;> decide
  by_cases hnil : s.groups = []
  · rw [openGroup_of_nil hnil]
    exact .finish hboundary.1
  · rw [openGroup_of_ne_nil hnil]
    exact .add hboundary.2.2 hboundary.2.1

/-- A closer shows as itself. -/
theorem showing_closeGroup (hc : Group.ofCloser? c = some g) (s : Scan) :
    Showing seen s.giveUpAngles.leading [some c] (s.closeGroup c g).leading := by
  have hplain : c ∉ neverShown ∧ isBlank c = false := by
    rcases Group.ofCloser?_eq_some_iff.1 hc with ⟨rfl, -⟩ | ⟨rfl, -⟩ | ⟨rfl, -⟩ <;> decide
  unfold closeGroup
  simp only
  split_ifs
  · rw [leading_closeInnermost]
    exact .add hplain.2 hplain.1
  · exact .add hplain.2 hplain.1

/-- The `<` of type arguments opens them or shows as itself. -/
theorem showing_openAngle (hcoupled : s.Coupled) (opens : opensArguments seen = true) :
    Showing seen s.leading [some '<'] s.openAngle.leading := by
  unfold openAngle
  simp only
  split_ifs with hnil
  · refine .enter opens fun o ho => ?_
    rw [← hcoupled o ho, hnil]
    rfl
  · exact .add (by decide) (by decide)

/-- The `>` of type arguments closes them or shows as itself. -/
theorem showing_closeAngle (s : Scan) :
    Showing seen s.leading [some '>'] s.closeAngle.leading := by
  by_cases hnil : s.groups.tail = []
  · rw [closeAngle_of_nil hnil]
    exact .leave
  · rw [closeAngle_of_ne_nil hnil]
    exact .add (by decide) (by decide)

/-- A character that is neither a sign nor a bracket leaves a gap or shows as itself. -/
theorem showing_plain (hnever : c ∉ neverShown) (s : Scan) :
    Showing seen s.leading [some c] (s.plain c).leading := by
  unfold plain
  simp only
  split_ifs with hblank
  · exact .blank (List.cons_ne_nil _ _) (by simpa [separates] using hblank)
  · exact .add (Bool.eq_false_iff.2 hblank) hnever

/-- Every step ends the leading text, leaves it, adds to it, notes a gap, or opens or closes its
type arguments, as fits the places that the step covers. -/
theorem showing_stride (hcoupled : s.Coupled)
    (covers : (more ++ after).take ((stride s seen c (more ++ after)).1 - 1) = more) :
    ∃ l, (l = s.leading ∨ l = s.leading.giveUp) ∧
      Showing seen l (places s seen c more after)
        (stride s seen c (more ++ after)).2.leading := by
  have hone (code : Literal.step s.literals seen.head? c (more ++ after) = (.code, []))
      (hc : c ≠ '=') : places s seen c more after = [some c] := by
    rw [places_of_code code, eq_nil_of_covers code covers hc]
    rfl
  have htoken (code : Literal.step s.literals seen.head? c (more ++ after) = (.code, []))
      (hc : c = '=') : equalsToken (more ++ after) = c :: more := by
    subst hc
    exact equalsToken_of_covers code covers
  have hsettled := leading_settle s c
  have hmove := stride_move s seen c (more ++ after)
  generalize stride s seen c (more ++ after) = answer at hmove
  cases hmove with
  | literal consumed =>
    rw [places_of_consumed consumed]
    refine ⟨s.leading, .inl rfl, .blank (by simp) fun x hx => ?_⟩
    rw [List.eq_of_mem_replicate hx]
    rfl
  | equals code hc =>
    have hsign := equalsToken_mem_signs (more ++ after)
    rw [htoken code hc] at hsign ⊢
    rw [places_of_code code]
    exact ⟨_, hsettled, showing_report hsign _⟩
  | semicolon code hc =>
    subst hc
    rw [hone code (by decide)]
    have hsign : [';'] ∈ signs := by decide
    exact ⟨_, hsettled, showing_report hsign _⟩
  | opener code hc =>
    rw [hone code (by rintro rfl; cases hc)]
    exact ⟨_, hsettled, showing_openGroup hc _⟩
  | closer code hc =>
    rw [hone code (by rintro rfl; cases hc)]
    refine ⟨s.giveUpAngles.leading, leading_giveUpAngles s, ?_⟩
    rw [← giveUpAngles_settle s c]
    exact showing_closeGroup hc _
  | openAngle code hc opens =>
    subst hc
    rw [hone code (by decide)]
    exact ⟨_, hsettled, showing_openAngle (hcoupled.settle '<') opens⟩
  | closeAngle code hc _ =>
    subst hc
    rw [hone code (by decide)]
    exact ⟨_, hsettled, showing_closeAngle _⟩
  | plain code notEquals notSemicolon _ _ _ _ =>
    rw [hone code notEquals]
    obtain ⟨hsingle, hdouble⟩ := not_quote_of_code code
    exact ⟨_, hsettled, showing_plain (by simp [neverShown, *]) _⟩

end Scan

end MemberOutline.Shape
