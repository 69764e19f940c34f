import MemberOutline.Proofs.Shape.Spacing
import MemberOutline.Proofs.Text.Lines

/-!
# Blanks at the ends of a text

Trimming a text makes no difference to its shape (`shape_trim`), wherever the text ends.

The blanks before the text leave a gap at the start, where nothing is collected yet, and the next
thing that is collected forgets it (`LeadingKept.fromStart`). The blanks after it leave a gap at the
end, which is not shown. A step that asks for more text finds nothing it looks for in blanks either
(`stride_append_of_inert`); only an escape at the very end takes one of them for its own, and what
it escapes is of no influence.
-/

namespace MemberOutline.Shape

open Text (isBlank)

/-- Leading texts remain the same but for a gap where nothing is collected yet. -/
theorem LeadingKept.fromStart :
    LeadingKept fun l m => l = m ∨ (l = LeadingText.start.blank ∧ m = .start) where
  add := by
    rintro l m c (rfl | ⟨rfl, rfl⟩)
    · exact .inl rfl
    · exact .inl rfl
  blank := by
    rintro l m (rfl | ⟨rfl, rfl⟩)
    · exact .inl rfl
    · exact .inl rfl
  enter := by
    rintro l m (rfl | ⟨rfl, rfl⟩)
    · exact .inl rfl
    · exact .inl rfl
  leave := by
    rintro l m (rfl | ⟨rfl, rfl⟩)
    · exact .inl rfl
    · exact .inl rfl
  giveUp := by
    rintro l m (rfl | ⟨rfl, rfl⟩)
    · exact .inl rfl
    · exact .inr ⟨rfl, rfl⟩
  finish := by
    rintro l m (rfl | ⟨rfl, rfl⟩)
    · exact .inl rfl
    · exact .inl rfl

namespace Scan

variable {s : Scan} {blanks : Text}

/-- A step is the same where the text ends and where inert text follows. -/
theorem stride_append_of_inert {more : Text} (hinert : Literal.Inert more) (s : Scan) (seen : Text)
    (c : Char) (rest : Text) : stride s seen c (rest ++ more) = stride s seen c rest := by
  have htoken : equalsToken (rest ++ more) = equalsToken rest := by
    have hnil : equalsToken (rest ++ more) = equalsToken (rest ++ []) :=
      equalsToken_before_inert hinert (by
        rw [List.append_nil]
        exact length_equalsToken_le rest)
    rwa [List.append_nil] at hnil
  unfold stride code
  rw [Literal.step_append_of_inert hinert, htoken]

/-- The shape does not show which literals are open, nor a gap at the end. -/
theorem shape_of_gap (s : Scan) (literals : Literal.Stack) (strip : Bool) :
    ({ s with literals := literals, leading := s.leading.blank } : Scan).shape strip =
      s.shape strip := by
  have hcollected : s.leading.blank.collected = s.leading.collected := by
    cases s.leading <;> rfl
  simp only [shape, hcollected]

/-- Blanks at the end of a walk are not shown. -/
theorem shape_walk_blanks (hblanks : ∀ c ∈ blanks, isBlank c = true) (s : Scan) (k : Nat)
    (seen : Text) (strip : Bool) :
    (Text.walk id stride s k seen blanks).shape strip = s.shape strip := by
  induction blanks generalizing s k seen with
  | nil => rfl
  | cons c blanks ih =>
    have hrest := ih fun d hd => hblanks d (List.mem_cons_of_mem c hd)
    cases k with
    | succ k => exact hrest s k (c :: seen)
    | zero =>
      have hsilent : Silent s seen c blanks := .inr (hblanks c List.mem_cons_self)
      rw [Text.walk, hrest, stride_silent hsilent, shape_of_gap]

/-- Blanks at the end of a text are not shown. -/
theorem shape_append_blanks (hblanks : ∀ c ∈ blanks, isBlank c = true) (t : Text) (strip : Bool) :
    Shape.ofText strip (t ++ blanks) = Shape.ofText strip t := by
  have hinert : Literal.Inert blanks := fun c hc =>
    not_mem_of_isBlank (by decide) (hblanks c (List.mem_of_mem_head? hc))
  obtain ⟨k, hwalk⟩ := Text.exists_walk_append (stride_append_of_inert hinert) start 0 [] t
  rw [Shape.ofText, ofText, hwalk, shape_walk_blanks hblanks]
  rfl

/-- A scan that goes side by side with another but for a gap at the start ends in the same shape. -/
theorem shape_of_fromStart {t : Scan}
    (h : s.Parallel Eq (fun l m => l = m ∨ (l = LeadingText.start.blank ∧ m = .start)) t)
    (strip : Bool) : s.shape strip = t.shape strip := by
  have hcollected : s.leading.collected = t.leading.collected := by
    rcases h.leading with heq | ⟨hs, ht⟩
    · rw [heq]
    · rw [hs, ht]
      rfl
  obtain ⟨htokens, hwithheld⟩ := Prod.mk.inj h.tokens
  simp only [shape, h.groups, htokens, hwithheld, hcollected]

/-- Blanks at the start of a text are not shown. -/
theorem shape_blanks_append (hblanks : ∀ c ∈ blanks, isBlank c = true) (t : Text) (strip : Bool) :
    Shape.ofText strip (blanks ++ t) = Shape.ofText strip t := by
  by_cases hne : blanks = []
  · rw [hne, List.nil_append]
  obtain ⟨after, hsilent, hout⟩ := exists_path_blanks hblanks (s := start) rfl [] t
  have hafter := path_silent hsilent hne
  rw [hout] at hafter
  have hseen := takeWhile_of_head? (head?_of_silent hsilent hne hout)
  have hwalk : ofText (blanks ++ t) = Text.walk id stride after 0 [] t := by
    rw [ofText, hsilent.walk_eq, walk_of_seen after 0 t (hseen.trans List.takeWhile_nil.symm)]
  have hstart : after.Parallel Eq
      (fun l m => l = m ∨ (l = LeadingText.start.blank ∧ m = .start)) start := by
    rw [hafter]
    exact ⟨rfl, rfl, rfl, .inr ⟨rfl, rfl⟩⟩
  rw [Shape.ofText, Shape.ofText, hwalk]
  exact shape_of_fromStart (hstart.walk .eq .fromStart 0 [] t) strip

end Scan

/-- Trimming a text makes no difference to its shape. -/
theorem shape_trim (t : Text) (strip : Bool) :
    Shape.ofText strip (Text.trim t) = Shape.ofText strip t := by
  obtain ⟨front, back, hsplit, hfront, hback⟩ := Text.exists_eq_trim t
  conv_rhs => rw [hsplit]
  rw [Scan.shape_blanks_append hfront, Scan.shape_append_blanks hback]

end MemberOutline.Shape
