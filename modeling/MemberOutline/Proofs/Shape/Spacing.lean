import MemberOutline.Proofs.Shape.Parallel
import MemberOutline.Proofs.Shape.Silence

/-!
# Blanks between code

Blanks put between two stretches of code leave the sequence as it is, and the leading text but for
its spaces (`shape_of_blanks`). The only places where they must not stand are inside an identifier
and between an identifier and the `<` right after it (`Tight`).

The two scans come to the same state before the blanks, and over the blanks only a gap is added to
the leading text. From there on they go side by side: gaps and spaces are all in which their leading
texts differ (`LeadingKept.withoutSpaces`). Of the characters before, the first step after the
blanks could only ask for an identifier, and it does not, as the place is not tight
(`walk_after_blanks`).
-/

namespace MemberOutline

/-- The text without its spaces. -/
def Text.withoutSpaces (t : Text) : Text := t.filter (· ≠ ' ')

/-- Two texts without their spaces. -/
@[simp]
theorem Text.withoutSpaces_append (s t : Text) :
    (s ++ t).withoutSpaces = s.withoutSpaces ++ t.withoutSpaces :=
  List.filter_append s t

/-- Spaces can be left out only once. -/
@[simp]
theorem Text.withoutSpaces_withoutSpaces (t : Text) :
    t.withoutSpaces.withoutSpaces = t.withoutSpaces := by
  unfold Text.withoutSpaces
  rw [List.filter_filter]
  simp

end MemberOutline

namespace MemberOutline.Shape

open Text (anyStep isBlank isIdentifierChar)

/-! ## Leading texts but for their spaces -/

/-- A text without the spaces in it, with its type arguments still set apart. -/
def Collected.withoutSpaces (c : Collected) : Collected :=
  ⟨c.groups.map fun (t, arguments) => (t.withoutSpaces, arguments.withoutSpaces),
    c.text.withoutSpaces⟩

/-- Spaces can be left out only once of a text with type arguments. -/
theorem Collected.withoutSpaces_withoutSpaces (c : Collected) :
    c.withoutSpaces.withoutSpaces = c.withoutSpaces := by
  simp only [Collected.withoutSpaces, List.map_map, Function.comp_def,
    Text.withoutSpaces_withoutSpaces]

/-- Spaces left out before or after the text is put together are the same. -/
theorem Collected.render_withoutSpaces (c : Collected) (strip : Bool) :
    c.withoutSpaces.render strip = (c.render strip).withoutSpaces := by
  obtain ⟨groups, text⟩ := c
  unfold Collected.render Collected.withoutSpaces
  rw [Text.withoutSpaces_append]
  simp only [List.append_cancel_right_eq]
  induction groups with
  | nil => rfl
  | cons g groups ih =>
    rw [List.map_cons, List.flatMap_cons, List.flatMap_cons, Text.withoutSpaces_append, ih]
    cases strip <;> simp

namespace LeadingText

/-- A leading text without its spaces and its gap. -/
def withoutSpaces : LeadingText → LeadingText
  | .outside collected _ => .outside collected.withoutSpaces false
  | .inside collected arguments _ => .inside collected.withoutSpaces arguments.withoutSpaces false
  | .ended collected => .ended collected.withoutSpaces

/-- A gap before a character is only a space. -/
theorem withoutSpaces_spaced (gap : Bool) (c : Char) :
    (spaced gap c).withoutSpaces = Text.withoutSpaces [c] := by
  cases gap <;> rfl

/-- Without spaces the same is collected. -/
theorem collected_withoutSpaces (l : LeadingText) :
    l.withoutSpaces.collected = l.collected.withoutSpaces := by
  cases l with
  | outside collected gap => rfl
  | inside collected arguments gap =>
    simp [withoutSpaces, LeadingText.collected, giveUp, Collected.withoutSpaces]
  | ended collected => rfl

end LeadingText

/-- Leading texts that are the same but for their spaces stay so. -/
theorem LeadingKept.withoutSpaces :
    LeadingKept fun l m => l.withoutSpaces = m.withoutSpaces := by
  refine .of_map LeadingText.withoutSpaces ?_ ?_ ?_ ?_ ?_ ?_
  · rintro (⟨collected, gap⟩ | ⟨collected, arguments, gap⟩ | ⟨collected⟩) c
    all_goals
      simp [LeadingText.withoutSpaces, LeadingText.add, LeadingText.withoutSpaces_spaced,
        Collected.withoutSpaces]
  · rintro (⟨collected, gap⟩ | ⟨collected, arguments, gap⟩ | ⟨collected⟩)
    all_goals
      simp only [LeadingText.withoutSpaces, LeadingText.blank,
        Collected.withoutSpaces_withoutSpaces, Text.withoutSpaces_withoutSpaces]
  · rintro (⟨collected, gap⟩ | ⟨collected, arguments, gap⟩ | ⟨collected⟩)
    all_goals
      simp only [LeadingText.withoutSpaces, LeadingText.enter,
        Collected.withoutSpaces_withoutSpaces, Text.withoutSpaces_withoutSpaces]
  · rintro (⟨collected, gap⟩ | ⟨collected, arguments, gap⟩ | ⟨collected⟩)
    all_goals
      simp [LeadingText.withoutSpaces, LeadingText.leave, LeadingText.add,
        LeadingText.withoutSpaces_spaced, Collected.withoutSpaces]
  · rintro (⟨collected, gap⟩ | ⟨collected, arguments, gap⟩ | ⟨collected⟩)
    all_goals simp [LeadingText.withoutSpaces, LeadingText.giveUp, Collected.withoutSpaces]
  · intro l
    unfold LeadingText.finish
    rw [LeadingText.collected_withoutSpaces, LeadingText.withoutSpaces,
      LeadingText.withoutSpaces, Collected.withoutSpaces_withoutSpaces]

/-! ## A run of blanks -/

namespace Scan

variable {s t : Scan} {seen seen' a b blanks rest : Text} {c : Char}

/-- A blank is not among characters none of which is one. -/
theorem not_mem_of_isBlank {chars : List Char} (hnone : chars.all (!isBlank ·) = true)
    (hc : isBlank c = true) : c ∉ chars := by
  intro hmem
  have hnot := List.all_eq_true.1 hnone c hmem
  rw [hc] at hnot
  cases hnot

/-- Outside all literals a blank is code. -/
theorem step_of_isBlank (before : Option Char) (rest : Text) (hc : isBlank c = true) :
    Literal.step [] before c rest = (.code, []) :=
  Literal.step_of_not_mem (not_mem_of_isBlank (by decide) hc)

/-- A scan comes through a run of blanks outside all literals. -/
theorem exists_path_blanks (hblanks : ∀ c ∈ blanks, isBlank c = true) (hs : s.literals = [])
    (seen rest : Text) :
    ∃ t, Text.Path id stride Silent s seen blanks rest t ∧ t.literals = [] := by
  induction blanks generalizing s seen with
  | nil => exact ⟨s, .stay, hs⟩
  | cons c blanks ih =>
    have hc := hblanks c List.mem_cons_self
    have hcode : Literal.step s.literals seen.head? c (blanks ++ rest) = (.code, []) := by
      rw [hs]
      exact step_of_isBlank seen.head? _ hc
    obtain ⟨t, hpath, ht⟩ := ih (s := { s with leading := s.leading.blank })
      (fun d hd => hblanks d (List.mem_cons_of_mem c hd)) hs (c :: seen)
    exact ⟨t, .cons_one (.inr hc) (stride_blank hcode hc) rfl hpath, ht⟩

/-- A text that begins with a run of blanks is inert. -/
theorem inert_blanks (hblanks : ∀ c ∈ blanks, isBlank c = true) (hne : blanks ≠ [])
    (rest : Text) : Literal.Inert (blanks ++ rest) := by
  obtain ⟨c, blanks, rfl⟩ := List.exists_cons_of_ne_nil hne
  have hc := hblanks c List.mem_cons_self
  exact Literal.inert_cons (not_mem_of_isBlank (by decide) hc) (blanks ++ rest)

/-! ## Where blanks make a difference -/

/-- Whether two stretches of text are one identifier, or an identifier and the `<` right after it,
where they meet. -/
def Tight (a b : Text) : Prop :=
  a.getLast?.any isIdentifierChar = true ∧ ∃ c ∈ b.head?, isIdentifierChar c = true ∨ c = '<'

/-- A character that belongs to no identifier and is no `<` asks for nothing before it. -/
theorem stride_of_loose (s : Scan) (seen seen' rest : Text) (hc : isIdentifierChar c = false)
    (hangle : c ≠ '<') : stride s seen c rest = stride s seen' c rest := by
  unfold stride code
  rw [Literal.step_of_not_identifier s.literals seen.head? seen'.head? rest hc]
  simp only [hangle, false_and]

/-- Where two stretches are not tight, a walk goes through the second as it would after a blank. -/
theorem walk_after_blanks (s : Scan) (loose : ¬ Tight a b)
    (hseen : seen.takeWhile isIdentifierChar = []) :
    Text.walk id stride s 0 seen b = Text.walk id stride s 0 a.reverse b := by
  by_cases ha : a.getLast?.any isIdentifierChar = true
  · cases b with
    | nil => rfl
    | cons c b =>
      -- The first step asks for nothing before it, and ends what is an identifier before it.
      have hc : isIdentifierChar c = false := by
        rw [Bool.eq_false_iff]
        exact fun h => loose ⟨ha, c, rfl, .inl h⟩
      have hangle : c ≠ '<' := fun h => loose ⟨ha, c, rfl, .inr h⟩
      rw [Text.walk, Text.walk, stride_of_loose s seen a.reverse b hc hangle]
      exact walk_of_seen _ _ b (by rw [List.takeWhile_cons, List.takeWhile_cons, hc]; rfl)
  · rw [← List.head?_reverse, Bool.not_eq_true] at ha
    refine walk_of_seen s 0 b ?_
    rw [hseen, takeWhile_of_head? ha]

/-- Two scans of a text with and without blanks at a place go side by side from there on. -/
theorem parallel_of_blanks (arrives : Text.Path id stride anyStep .start [] a b s)
    (outside : s.literals = []) (loose : ¬ Tight a b)
    (hblanks : ∀ c ∈ blanks, isBlank c = true) :
    (ofText (a ++ (blanks ++ b))).Parallel Eq (fun l m => l.withoutSpaces = m.withoutSpaces)
      (ofText (a ++ b)) := by
  by_cases hne : blanks = []
  · subst hne
    exact ⟨rfl, rfl, rfl, rfl⟩
  -- Both scans come to the same state before the blanks.
  have hbefore := path_before_inert arrives outside (inert_blanks hblanks hne b)
  obtain ⟨t, hsilent, ht⟩ := exists_path_blanks hblanks outside a.reverse b
  have hstate := path_silent hsilent hne
  rw [ht] at hstate
  have hparallel : t.Parallel Eq (fun l m => l.withoutSpaces = m.withoutSpaces) s := by
    rw [hstate]
    exact ⟨outside.symm, rfl, rfl, by cases s.leading <;> rfl⟩
  have hseen := takeWhile_of_head? (head?_of_silent hsilent hne ht)
  have hspaced : ofText (a ++ (blanks ++ b)) = Text.walk id stride t 0 a.reverse b :=
    calc ofText (a ++ (blanks ++ b))
        = Text.walk id stride s 0 a.reverse (blanks ++ b) := by
          rw [ofText, hbefore.walk_eq, List.append_nil]
      _ = Text.walk id stride t 0 (blanks.reverse ++ a.reverse) b := hsilent.walk_eq
      _ = Text.walk id stride t 0 a.reverse b := walk_after_blanks t loose hseen
  have htight : ofText (a ++ b) = Text.walk id stride s 0 a.reverse b := by
    rw [ofText, arrives.walk_eq, List.append_nil]
  rw [hspaced, htight]
  exact hparallel.walk .eq .withoutSpaces 0 a.reverse b

end Scan

/-! ## The shape -/

/-- Blanks between two stretches of code make no difference to the sequence, and none to the leading
text but for its spaces, unless the two were one identifier, or an identifier and the `<` right
after it. -/
theorem shape_of_blanks {a b blanks : Text} {s : Scan}
    (arrives : Text.Path id Scan.stride anyStep .start [] a b s) (outside : s.literals = [])
    (loose : ¬ Scan.Tight a b) (hblanks : ∀ c ∈ blanks, isBlank c = true) (strip : Bool) :
    (Shape.ofText strip (a ++ (blanks ++ b))).sequence = (Shape.ofText strip (a ++ b)).sequence ∧
      (Shape.ofText strip (a ++ (blanks ++ b))).leadingText.withoutSpaces =
        (Shape.ofText strip (a ++ b)).leadingText.withoutSpaces := by
  have hparallel := Scan.parallel_of_blanks arrives outside loose hblanks
  refine ⟨(Prod.mk.inj (hparallel.sequence .eq strip)).1, ?_⟩
  have hcollected := congrArg LeadingText.collected hparallel.leading
  rw [LeadingText.collected_withoutSpaces, LeadingText.collected_withoutSpaces] at hcollected
  unfold Shape.ofText Scan.shape
  rw [← Collected.render_withoutSpaces, ← Collected.render_withoutSpaces, hcollected]

/-- A comparison after a raw string, up to the name of a function. -/
def comparedName : Text := "bool get b => r'\x22' != f<g".toList

/-- What that function is applied to, and the rest of the declaration. -/
def comparedArguments : Text := "(x = '/*') / 2;".toList

/-- A line break between the name and the bracket after it makes no difference. -/
theorem shape_of_blanks_comparison :
    (Shape.ofText false (comparedName ++ ("\n\t".toList ++ comparedArguments))).sequence =
        (Shape.ofText false (comparedName ++ comparedArguments)).sequence ∧
      (Shape.ofText false
          (comparedName ++ ("\n\t".toList ++ comparedArguments))).leadingText.withoutSpaces =
        (Shape.ofText false (comparedName ++ comparedArguments)).leadingText.withoutSpaces := by
  have harrival : (Text.arrival? id Scan.stride (fun _ _ _ _ => true) .start 0 []
      comparedName comparedArguments).any (fun s => s.literals = []) = true := by decide
  obtain ⟨s, hs, houtside⟩ := (Option.any_eq_true _ _).1 harrival
  have hpath := (Text.path_of_arrival hs).1.mono fun _ _ _ _ _ => (trivial : True)
  have hloose : ¬ Scan.Tight comparedName comparedArguments := by
    rintro ⟨-, c, hc, hident⟩
    have hhead : comparedArguments.head? = some '(' := by decide
    rw [hhead] at hc
    obtain rfl := Option.mem_some_iff.1 hc
    exact absurd hident (by decide)
  have hblanks : "\n\t".toList.all isBlank = true := by decide
  exact shape_of_blanks hpath (of_decide_eq_true houtside) hloose (List.all_eq_true.1 hblanks) false

end MemberOutline.Shape
