import MemberOutline.Proofs.Text.Words

/-!
# Rows of a text

A text report puts one row below another without escaping anything in them. It can be taken apart
again because a space is the only blank in a row (`OneLine`): rows that are joined are the lines of
the whole (`lines_joinWith`). In the same way words that are joined are the words of the whole
(`words_joinWith`), and a column ends at the first space where what stands in it has none
(`padTo_append_inj`).
-/

namespace MemberOutline.Text

/-- A text without blanks. -/
def Solid (t : Text) : Prop := ∀ c ∈ t, isBlank c = false

/-- A text with no other blank in it than the space, so that it stands on one line. -/
def OneLine (t : Text) : Prop := ∀ c ∈ t, isBlank c = true → c = ' '

-- Both go through the characters of the text, not through all that there are.
instance (t : Text) : Decidable (Solid t) := List.decidableBAll (fun c => isBlank c = false) t

instance (t : Text) : Decidable (OneLine t) :=
  List.decidableBAll (fun c => isBlank c = true → c = ' ') t

variable {t u : Text} {rows : List Text}

/-- A text without blanks stands on one line. -/
theorem Solid.oneLine (h : Solid t) : OneLine t := by
  intro c hc hblank
  rw [h c hc] at hblank
  cases hblank

/-- Two texts, one directly after the other, stand on one line if each of them does. -/
theorem OneLine.append (ht : OneLine t) (hu : OneLine u) : OneLine (t ++ u) :=
  List.forall_mem_append.2 ⟨ht, hu⟩

/-- What stands on one line has no line break in it. -/
theorem OneLine.newline_not_mem (h : OneLine t) : '\n' ∉ t := by
  intro hmem
  have hspace : '\n' = ' ' := h '\n' hmem (by decide)
  exact absurd hspace (by decide)

/-- Texts on one line stand on one line when they are joined by spaces. -/
theorem OneLine.joinWith (h : ∀ t ∈ rows, OneLine t) : OneLine (joinWith [' '] rows) := by
  induction rows with
  | nil => exact fun _ hc => by cases hc
  | cons t more ih =>
    have ht : OneLine t := h t List.mem_cons_self
    cases more with
    | nil => exact ht
    | cons u more =>
      have hspace : OneLine [' '] := by decide
      exact (ht.append hspace).append (ih fun v hv => h v (List.mem_cons_of_mem t hv))

/-! ## Rows -/

/-- A text without line breaks is read to its end as part of a line. -/
theorem linesFrom_append (ht : '\n' ∉ t) (read rest : Text) :
    linesFrom read (t ++ rest) = linesFrom (t.reverse ++ read) rest := by
  induction t generalizing read with
  | nil => rfl
  | cons c t ih =>
    have hc : c ≠ '\n' := fun heq => ht (heq ▸ List.mem_cons_self)
    have hmore : '\n' ∉ t := fun hmem => ht (List.mem_cons_of_mem c hmem)
    rw [List.cons_append, linesFrom, if_neg hc, ih hmore, List.reverse_cons, List.append_assoc,
      List.singleton_append]

/-- Rows that are joined by line breaks are the lines of the whole. None of them may be empty: an
empty row at the end starts no further line. -/
theorem lines_joinWith (h : ∀ t ∈ rows, t ≠ [] ∧ OneLine t) :
    lines (joinWith ['\n'] rows) = rows := by
  unfold lines
  induction rows with
  | nil => rfl
  | cons t more ih =>
    obtain ⟨hne, ht⟩ := h t List.mem_cons_self
    have hrow := linesFrom_append ht.newline_not_mem []
    rw [List.append_nil] at hrow
    cases more with
    | nil =>
      have hend := hrow []
      rw [List.append_nil] at hend
      have hrev : t.reverse ≠ [] := List.reverse_ne_nil_iff.2 hne
      obtain ⟨c, read, heq⟩ := List.exists_cons_of_ne_nil hrev
      rw [joinWith, hend, heq, linesFrom, ← heq, List.reverse_reverse]
    | cons u more =>
      -- A row has no carriage return at its end that would count as part of the line break.
      have hreturn : dropCarriageReturn t = t := by
        refine if_neg fun hlast => ?_
        have hspace := ht '\r' (List.mem_of_getLast? hlast) (by decide)
        exact absurd hspace (by decide)
      rw [joinWith, List.append_assoc, List.singleton_append, hrow, linesFrom, if_pos rfl,
        List.reverse_reverse, hreturn, ih fun v hv => h v (List.mem_cons_of_mem t hv)]
      exact List.cons_ne_nil _ _

/-! ## Words and columns -/

/-- Words that are joined by spaces are the words of the whole. -/
theorem words_joinWith {parts : List Text} (h : ∀ w ∈ parts, w ≠ [] ∧ Solid w) :
    words (joinWith [' '] parts) = parts := by
  induction parts with
  | nil => rfl
  | cons w more ih =>
    obtain ⟨hne, hw⟩ := h w List.mem_cons_self
    have hone : words w = [w] := by rw [words_of_none hw, if_neg hne]
    cases more with
    | nil => exact hone
    | cons v more =>
      have hmore := ih fun v hv => h v (List.mem_cons_of_mem w hv)
      rw [joinWith, List.append_assoc, List.singleton_append,
        words_append_blank (by decide : isBlank ' ' = true), hone, hmore]
      · rfl
      · exact List.cons_ne_nil _ _

/-- A separator ends what stands before it and has none in it. -/
theorem append_separator_inj {separator : Char} {t' u' : Text} (ht : separator ∉ t)
    (ht' : separator ∉ t') (h : t ++ separator :: u = t' ++ separator :: u') :
    t = t' ∧ u = u' := by
  have hbefore {t : Text} (ht : separator ∉ t) (u : Text) :
      (t ++ separator :: u).takeWhile (· ≠ separator) = t := by
    have hother : ∀ c ∈ t, decide (c ≠ separator) = true := by
      intro c hc
      exact decide_eq_true (ne_of_mem_of_not_mem hc ht)
    rw [List.takeWhile_append_of_pos hother, List.takeWhile_cons_of_neg (by simp),
      List.append_nil]
  have hfirst : t = t' := by
    rw [← hbefore ht u, h, hbefore ht' u']
  subst hfirst
  exact ⟨rfl, (List.cons.inj (List.append_cancel_left h)).2⟩

/-- Text without spaces that is padded to a column can be told from what comes after the column,
whether it is shorter than the column or longer. -/
theorem padTo_append_inj {width : Nat} {t' u' : Text} (ht : ' ' ∉ t) (ht' : ' ' ∉ t')
    (h : padTo width t ++ ' ' :: u = padTo width t' ++ ' ' :: u') : t = t' ∧ u = u' := by
  -- A space comes first in the padding and what is after it, if there is any padding or none.
  have hmoved (t u : Text) : padTo width t ++ ' ' :: u =
      t ++ ' ' :: (List.replicate (width - t.length) ' ' ++ u) := by
    unfold padTo
    rw [List.append_assoc, List.append_cons, ← List.replicate_succ', List.replicate_succ,
      List.cons_append]
  rw [hmoved, hmoved] at h
  obtain ⟨rfl, hrest⟩ := append_separator_inj ht ht' h
  exact ⟨rfl, List.append_cancel_left hrest⟩

end MemberOutline.Text
