import MemberOutline.Text.Words
import Mathlib.Data.List.DropRight

/-!
# Lines and trimming

A text is what trimming leaves of it between blanks (`exists_eq_trim`), and blanks at its end make
no difference to that (`trim_append_blanks`). So it is all the same whether a line break is one
character or two, and where texts are joined by a line break, the trimmed lines of the whole are
those of the parts but for empty ones (`trimmedLines_append`).
-/

namespace MemberOutline.Text

variable {blanks : Text}

/-! ## Trimming -/

/-- Trimming takes blanks away at both ends. -/
theorem exists_eq_trim (t : Text) : ∃ front back, t = front ++ (trim t ++ back) ∧
    (∀ c ∈ front, isBlank c = true) ∧ ∀ c ∈ back, isBlank c = true := by
  refine ⟨t.takeWhile isBlank, (trimStart t).rtakeWhile isBlank, ?_,
    fun c hc => List.mem_takeWhile_imp hc, fun c hc => List.mem_rtakeWhile_imp hc⟩
  have hback : trim t ++ (trimStart t).rtakeWhile isBlank = trimStart t :=
    List.rdropWhile_append_rtakeWhile
  rw [hback]
  exact List.takeWhile_append_dropWhile.symm

/-- Nothing is left of blanks at the end of a text. -/
theorem trimEnd_append_blanks (hblanks : ∀ c ∈ blanks, isBlank c = true) (t : Text) :
    trimEnd (t ++ blanks) = trimEnd t := by
  unfold trimEnd
  rw [List.reverse_append, List.dropWhile_append_of_pos]
  exact fun c hc => hblanks c (List.mem_reverse.1 hc)

/-- Blanks at the end of a text make no difference to what trimming leaves. -/
theorem trim_append_blanks (hblanks : ∀ c ∈ blanks, isBlank c = true) (t : Text) :
    trim (t ++ blanks) = trim t := by
  unfold trim trimStart
  rw [List.dropWhile_append]
  split_ifs with hempty
  · -- All of the text was blank.
    rw [List.isEmpty_iff.1 hempty, List.dropWhile_eq_nil_iff.2 hblanks]
  · rw [trimEnd_append_blanks hblanks]

/-- A carriage return at the end of a line is trimmed anyway. -/
theorem trim_dropCarriageReturn (line : Text) : trim (dropCarriageReturn line) = trim line := by
  unfold dropCarriageReturn
  split_ifs with hlast
  · have hsplit : line = line.dropLast ++ ['\r'] := (List.dropLast_append_getLast? _ hlast).symm
    have hblank : ∀ c ∈ ['\r'], isBlank c = true := by
      rintro c (_ | ⟨_, ⟨⟩⟩)
      decide
    conv_rhs => rw [hsplit]
    rw [trim_append_blanks hblank]
  · rfl

/-! ## Lines -/

/-- The lines of a text, each trimmed, that meet a condition. -/
def trimmedLines (keeps : Text → Bool) (t : Text) : List Text :=
  ((lines t).map trim).filter keeps

/-- The trimmed lines of two texts with a line break between them are those of the one and then
those of the other, where empty ones do not count. -/
theorem trimmedLines_append {keeps : Text → Bool} (hempty : keeps [] = false) (t u : Text) :
    trimmedLines keeps (t ++ '\n' :: u) = trimmedLines keeps t ++ trimmedLines keeps u := by
  have hfrom (read : Text) : ((linesFrom read (t ++ '\n' :: u)).map trim).filter keeps =
      ((linesFrom read t).map trim).filter keeps ++ trimmedLines keeps u := by
    induction t generalizing read with
    | nil =>
      rw [List.nil_append, linesFrom, if_pos rfl, List.map_cons, trim_dropCarriageReturn]
      -- The last line of the first text is complete here; an empty one does not count.
      cases read with
      | nil =>
        have htrim : trim (List.reverse []) = [] := rfl
        rw [htrim, List.filter_cons_of_neg (by simp [hempty])]
        rfl
      | cons d read =>
        rw [linesFrom, List.map_cons, List.map_nil, ← List.singleton_append, List.filter_append]
        rfl
    | cons c t ih =>
      rw [List.cons_append, linesFrom, linesFrom]
      split_ifs
      · rw [List.map_cons, List.map_cons, ← List.singleton_append, List.filter_append, ih,
          ← List.append_assoc, ← List.filter_append, List.singleton_append]
      · exact ih (c :: read)
  exact hfrom []

end MemberOutline.Text
