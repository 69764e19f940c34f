import MemberOutline.Shape.LeadingText
import MemberOutline.Proofs.Shape.Silence
import MemberOutline.Proofs.Text.Rows
import Mathlib.Data.List.ReduceOption

/-!
# A view as a label

What a label shows of a view of code is its words with single spaces between them (`squeezed`): a
blank or a place without code separates words, however many of them there are. The squeezed text is
the words of itself (`joinWith_words_squeezed`), and an identifier in it is one of the view
(`identifiers_squeezed`). `squeezed_append_some` and `squeezed_append_separators` say what one more
place of the view adds to it.
-/

namespace MemberOutline.Shape

open Text (isBlank isIdentifierChar runs joinWith Solid)

/-- Whether a place of a view separates words: it is without code, or it holds a blank. -/
def separates (x : Option Char) : Bool := x.all isBlank

/-- The words that a view shows. -/
def shownWords (view : List (Option Char)) : List Text :=
  (runs separates view).map List.reduceOption

/-- The words that a view shows with single spaces between them. -/
def squeezed (view : List (Option Char)) : Text := joinWith [' '] (shownWords view)

variable {view run gap : List (Option Char)} {x : Option Char} {c : Char} {w : Text}

/-! ## Words -/

/-- Words that are joined begin with the first of them. -/
theorem joinWith_cons (separator : Text) (w : Text) (ws : List Text) :
    joinWith separator (w :: ws) =
      if ws = [] then w else w ++ separator ++ joinWith separator ws := by
  cases ws <;> rfl

/-- Words that are joined end in the last of them. -/
theorem joinWith_concat (separator : Text) (ws : List Text) (w : Text) :
    joinWith separator (ws ++ [w]) =
      if ws = [] then w else joinWith separator ws ++ separator ++ w := by
  induction ws with
  | nil => rfl
  | cons v ws ih =>
    rw [List.cons_append, joinWith_cons, if_neg (by simp), ih, joinWith_cons,
      if_neg (List.cons_ne_nil v ws)]
    split_ifs
    · rfl
    · simp

/-- A stretch without separators is code. -/
theorem map_some_reduceOption (h : ∀ x ∈ run, separates x = false) :
    run.reduceOption.map some = run := by
  induction run with
  | nil => rfl
  | cons x run ih =>
    cases x with
    | none => exact absurd (h none List.mem_cons_self) (by decide)
    | some c =>
      have hrun := ih fun x hx => h x (List.mem_cons_of_mem _ hx)
      rw [List.reduceOption_cons_of_some, List.map_cons, hrun]

/-- The words that a view shows are words. -/
theorem of_mem_shownWords (h : w ∈ shownWords view) : w ≠ [] ∧ Solid w := by
  obtain ⟨run, hmem, rfl⟩ := List.mem_map.1 h
  obtain ⟨hne, hrun⟩ := Text.of_mem_runs hmem
  have hmap := map_some_reduceOption fun x hx => (hrun x hx).2
  refine ⟨fun hnil => hne ?_, fun c hc => ?_⟩
  · rw [← hmap, hnil, List.map_nil]
  · exact (hrun (some c) (by rw [← hmap]; exact List.mem_map_of_mem hc)).2

/-- The words that a view shows are the words of its squeezed text. -/
theorem words_squeezed (view : List (Option Char)) :
    Text.words (squeezed view) = shownWords view :=
  Text.words_joinWith fun _ hw => of_mem_shownWords hw

/-- A squeezed text is its words with single spaces between them. -/
theorem joinWith_words_squeezed (view : List (Option Char)) :
    joinWith [' '] (Text.words (squeezed view)) = squeezed view := by
  rw [words_squeezed, squeezed]

/-- The words that code shows are its words. -/
theorem shownWords_map_some (t : Text) : shownWords (t.map some) = Text.words t := by
  unfold shownWords
  rw [Text.runs_map, Text.words_eq_runs, List.map_map]
  have hcode : (List.reduceOption ∘ List.map some : Text → Text) = id := by
    funext u
    rw [Function.comp_apply, List.reduceOption, List.filterMap_map]
    exact List.filterMap_some
  rw [hcode, List.map_id]
  rfl

/-- A text that shows no words is empty, and only then. -/
theorem squeezed_eq_nil_iff : squeezed view = [] ↔ shownWords view = [] := by
  unfold squeezed
  constructor
  · intro h
    rw [← words_squeezed view, squeezed, h]
    rfl
  · intro h
    rw [h]
    rfl

/-! ## One more place -/

/-- Places that separate words add nothing at the end of a squeezed text. -/
theorem squeezed_append_separators (h : ∀ x ∈ gap, separates x = true) :
    squeezed (view ++ gap) = squeezed view := by
  unfold squeezed shownWords
  induction gap generalizing view with
  | nil => rw [List.append_nil]
  | cons x gap ih =>
    have hnil : runs separates ([] : List (Option Char)) = [] := rfl
    have hx : separates x = true := h x List.mem_cons_self
    rw [List.append_cons, ih fun y hy => h y (List.mem_cons_of_mem x hy),
      Text.runs_append_cons hx, hnil, List.append_nil]

/-- A stretch without separators at the end of a view is one more word. -/
theorem shownWords_append_run {front : List (Option Char)}
    (hfront : ∀ x ∈ front.getLast?, separates x = true) (hne : run ≠ [])
    (hrun : ∀ x ∈ run, separates x = false) :
    shownWords (front ++ run) = shownWords front ++ [run.reduceOption] := by
  unfold shownWords
  rw [Text.runs_append_run hfront hne hrun, List.map_append]
  rfl

/-- A character that is no blank is added to a squeezed text, with a space before it if it begins a
further word. -/
theorem squeezed_append_some (view : List (Option Char)) (hc : isBlank c = false) :
    squeezed (view ++ [some c]) =
      squeezed view ++
        LeadingText.spaced (view.getLast?.any separates && squeezed view ≠ []) c := by
  have hsingle : ∀ x ∈ [some c], separates x = false := by simpa [separates] using hc
  obtain ⟨front, run, rfl, hfront, hrun⟩ := Text.exists_run_at_end separates view
  by_cases hnil : run = []
  · subst hnil
    rw [List.append_nil]
    have hwords : shownWords (front ++ [some c]) = shownWords front ++ [[c]] :=
      shownWords_append_run hfront (List.cons_ne_nil _ _) hsingle
    by_cases hempty : shownWords front = []
    · rw [squeezed, hwords, hempty, squeezed_eq_nil_iff.2 hempty]
      simp [joinWith, LeadingText.spaced]
    · -- Words come before, so the view ends in a separator.
      have hne : front ≠ [] := by
        rintro rfl
        exact hempty rfl
      have hlast : front.getLast?.any separates = true := by
        rw [List.getLast?_eq_some_getLast hne]
        exact hfront _ (by rw [List.getLast?_eq_some_getLast hne]; rfl)
      have hsqueezed : squeezed front ≠ [] := fun h => hempty (squeezed_eq_nil_iff.1 h)
      rw [squeezed, hwords, joinWith_concat, if_neg hempty, hlast, Bool.true_and,
        decide_eq_true hsqueezed, List.append_assoc]
      rfl
  · have hlast : (front ++ run).getLast?.any separates = false := by
      rw [List.getLast?_append_of_ne_nil _ hnil, List.getLast?_eq_some_getLast hnil]
      exact hrun _ (List.getLast_mem hnil)
    have hlonger : ∀ x ∈ run ++ [some c], separates x = false := by
      exact List.forall_mem_append.2 ⟨hrun, hsingle⟩
    have hwords := shownWords_append_run hfront hnil hrun
    have hmore : shownWords (front ++ run ++ [some c]) =
        shownWords front ++ [run.reduceOption ++ [c]] := by
      rw [List.append_assoc, shownWords_append_run hfront (by simp) hlonger,
        List.reduceOption_append]
      rfl
    rw [squeezed, squeezed, hmore, hwords, hlast, joinWith_concat, joinWith_concat, Bool.false_and]
    split_ifs <;> simp [LeadingText.spaced]

/-! ## Characters and identifiers -/

/-- What is joined by spaces has in it what the parts have, and spaces. -/
theorem of_mem_joinWith {ws : List Text} (h : c ∈ joinWith [' '] ws) :
    c = ' ' ∨ ∃ w ∈ ws, c ∈ w := by
  induction ws with
  | nil => cases h
  | cons w ws ih =>
    have hlater : (∃ v ∈ ws, c ∈ v) → ∃ v ∈ w :: ws, c ∈ v := by
      rintro ⟨v, hv, hc⟩
      exact ⟨v, List.mem_cons_of_mem w hv, hc⟩
    rw [joinWith_cons] at h
    split_ifs at h
    · exact .inr ⟨w, List.mem_cons_self, h⟩
    · simp only [List.mem_append, List.mem_singleton] at h
      rcases h with (h | h) | h
      · exact .inr ⟨w, List.mem_cons_self, h⟩
      · exact .inl h
      · exact (ih h).imp_right hlater

/-- A squeezed text has the code of the view in it, and spaces. -/
theorem of_mem_squeezed (h : c ∈ squeezed view) : c = ' ' ∨ some c ∈ view := by
  refine (of_mem_joinWith h).imp_right ?_
  rintro ⟨w, hw, hc⟩
  obtain ⟨run, hrun, rfl⟩ := List.mem_map.1 hw
  exact ((Text.of_mem_runs hrun).2 (some c) (List.reduceOption_mem_iff.1 hc)).1

/-- The identifiers in a text. -/
def identifiers (t : Text) : List Text := runs (!isIdentifierChar ·) t

/-- The identifiers that a view shows, each in its places. -/
def shownIdentifiers (view : List (Option Char)) : List (List (Option Char)) :=
  runs (fun x => !x.any isIdentifierChar) view

/-- A place that separates words separates identifiers. -/
theorem any_isIdentifierChar_of_separates (h : separates x = true) :
    x.any isIdentifierChar = false := by
  cases x with
  | none => rfl
  | some c => exact not_isIdentifierChar_of_isBlank h

/-- The identifiers in a squeezed text are those of the view. -/
theorem identifiers_squeezed (view : List (Option Char)) :
    (identifiers (squeezed view)).map (List.map some) = shownIdentifiers view := by
  have hcode (t : Text) : (identifiers t).map (List.map some) = shownIdentifiers (t.map some) := by
    rw [shownIdentifiers, Text.runs_map]
    rfl
  have hone {run : List (Option Char)} (hrun : ∀ x ∈ run, separates x = false) :
      shownWords run = if run = [] then [] else [run.reduceOption] := by
    rw [shownWords, Text.runs_of_none hrun]
    split_ifs <;> rfl
  induction view using Text.run_induction separates with
  | last run hrun =>
    have hsqueezed : squeezed run = run.reduceOption := by
      rw [squeezed, hone hrun]
      split_ifs with hnil
      · rw [hnil]
        rfl
      · rfl
    rw [hsqueezed, hcode, map_some_reduceOption hrun]
  | more run x view hrun hx ih =>
    have hsplit : shownIdentifiers (run ++ x :: view) =
        shownIdentifiers run ++ shownIdentifiers view :=
      Text.runs_append_cons (by rw [any_isIdentifierChar_of_separates hx]; rfl) run view
    have hwords : shownWords (run ++ x :: view) = shownWords run ++ shownWords view := by
      rw [shownWords, Text.runs_append_cons hx, List.map_append]
      rfl
    have hspace (t u : Text) : identifiers (t ++ ' ' :: u) = identifiers t ++ identifiers u :=
      Text.runs_append_cons (by decide) t u
    rw [hsplit, ← ih, squeezed, hwords, hone hrun]
    split_ifs with hnil
    · rw [hnil]
      rfl
    · rw [List.singleton_append, joinWith_cons, ← map_some_reduceOption hrun, ← hcode]
      split_ifs with hempty
      · rw [squeezed_eq_nil_iff.2 hempty, map_some_reduceOption hrun]
        simp [identifiers, runs]
      · rw [List.append_assoc, List.singleton_append, hspace, List.map_append,
          map_some_reduceOption hrun]
        rfl

end MemberOutline.Shape
