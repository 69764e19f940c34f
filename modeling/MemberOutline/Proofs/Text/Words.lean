import MemberOutline.Text.Words
import Mathlib.Data.List.DropRight

/-!
# Splitting into words

The words of a text are its runs between blanks (`words_eq_runs`), and they split at every blank
(`words_append_blank`). So where the elements of a list stand for pieces of a text, those that stand
for blanks separate its words (`words_flatMap`), and from the end of a text its words can be taken
off one by one (`exists_last_word`).
-/

namespace MemberOutline.Text

section Runs

variable {α : Type} {separates : α → Bool} {x : α} {run l : List α}

/-- The maximal runs of a list without separators, in order. -/
def runs (separates : α → Bool) (l : List α) : List (List α) :=
  (l.splitOnP separates).filter fun run => !run.isEmpty

/-- A list is a run, or a run, a separator and a list. -/
theorem run_induction (separates : α → Bool) {motive : List α → Prop}
    (last : ∀ run, (∀ x ∈ run, separates x = false) → motive run)
    (more : ∀ run x l, (∀ x ∈ run, separates x = false) → separates x = true → motive l →
      motive (run ++ x :: l)) (l : List α) : motive l := by
  -- The run that is read so far stands before the list.
  have hrun (run : List α) (h : ∀ x ∈ run, separates x = false) : motive (run ++ l) := by
    induction l generalizing run with
    | nil =>
      rw [List.append_nil]
      exact last run h
    | cons x l ih =>
      cases hx : separates x with
      | true => exact more run x l h hx (ih [] (by simp))
      | false =>
        have hnext := ih (run ++ [x]) (by simpa [or_imp, forall_and, hx] using h)
        rwa [List.append_assoc] at hnext
  exact hrun [] (by simp)

/-- The runs of a list split at a separator. -/
theorem runs_append_cons (h : separates x = true) (l l' : List α) :
    runs separates (l ++ x :: l') = runs separates l ++ runs separates l' := by
  unfold runs
  rw [List.splitOnP_append_cons _ _ h, List.filter_append]

/-- A list without separators is one run, if it is not empty. -/
theorem runs_of_none (h : ∀ x ∈ run, separates x = false) :
    runs separates run = if run = [] then [] else [run] := by
  unfold runs
  rw [List.splitOnP_eq_singleton h]
  cases run <;> rfl

/-- A run is not empty, and what is in it is in the list and no separator. -/
theorem of_mem_runs (h : run ∈ runs separates l) :
    run ≠ [] ∧ ∀ x ∈ run, x ∈ l ∧ separates x = false := by
  have hone {first : List α} (hfirst : ∀ x ∈ first, separates x = false)
      (h : run ∈ runs separates first) : run ≠ [] ∧ run = first := by
    rw [runs_of_none hfirst] at h
    split_ifs at h with hnil
    · cases h
    · obtain rfl : run = first := List.mem_singleton.1 h
      exact ⟨hnil, rfl⟩
  induction l using run_induction separates with
  | last first hfirst =>
    obtain ⟨hne, rfl⟩ := hone hfirst h
    exact ⟨hne, fun x hx => ⟨hx, hfirst x hx⟩⟩
  | more first y l hfirst hy ih =>
    rw [runs_append_cons hy, List.mem_append] at h
    rcases h with h | h
    · obtain ⟨hne, rfl⟩ := hone hfirst h
      exact ⟨hne, fun x hx => ⟨List.mem_append_left _ hx, hfirst x hx⟩⟩
    · obtain ⟨hne, hall⟩ := ih h
      exact ⟨hne, fun x hx => ⟨List.mem_append_right _ (List.mem_cons_of_mem y (hall x hx).1),
        (hall x hx).2⟩⟩

/-- A run at the end of a list is its last one. -/
theorem runs_append_run (hl : ∀ x ∈ l.getLast?, separates x = true) (hne : run ≠ [])
    (hrun : ∀ x ∈ run, separates x = false) :
    runs separates (l ++ run) = runs separates l ++ [run] := by
  have hnil : runs separates ([] : List α) = [] := rfl
  rcases List.eq_nil_or_concat l with rfl | ⟨front, x, rfl⟩
  · rw [List.nil_append, runs_of_none hrun, if_neg hne, hnil, List.nil_append]
  · have hx : separates x = true := hl x (by simp)
    rw [List.concat_eq_append, List.append_assoc, List.singleton_append, runs_append_cons hx,
      runs_append_cons hx, runs_of_none hrun, if_neg hne, hnil, List.append_nil]

/-- A list is one that does not end within a run, and a run after it. -/
theorem exists_run_at_end (separates : α → Bool) (l : List α) :
    ∃ front run, l = front ++ run ∧ (∀ x ∈ front.getLast?, separates x = true) ∧
      ∀ x ∈ run, separates x = false := by
  induction l using List.reverseRecOn with
  | nil => exact ⟨[], [], rfl, by simp, by simp⟩
  | append_singleton l x ih =>
    cases hx : separates x with
    | true => exact ⟨l ++ [x], [], by simp, by simpa using hx, by simp⟩
    | false =>
      obtain ⟨front, run, rfl, hfront, hrun⟩ := ih
      refine ⟨front, run ++ [x], by simp, hfront, ?_⟩
      simpa [or_imp, forall_and, hx] using hrun

/-- The runs of a list are the stretches without separators that go on neither before nor after. -/
theorem mem_runs_iff :
    run ∈ runs separates l ↔ run ≠ [] ∧ (∀ x ∈ run, separates x = false) ∧
      ∃ before after, l = before ++ (run ++ after) ∧ (∀ x ∈ before.getLast?, separates x = true) ∧
        ∀ x ∈ after.head?, separates x = true := by
  constructor
  · intro h
    obtain ⟨hne, hrun⟩ := of_mem_runs h
    refine ⟨hne, fun x hx => (hrun x hx).2, ?_⟩
    induction l using run_induction separates with
    | last first hfirst =>
      rw [runs_of_none hfirst] at h
      split_ifs at h
      · cases h
      · obtain rfl : run = first := List.mem_singleton.1 h
        exact ⟨[], [], by simp, by simp, by simp⟩
    | more first y l hfirst hy ih =>
      rw [runs_append_cons hy, List.mem_append] at h
      rcases h with h | h
      · rw [runs_of_none hfirst] at h
        split_ifs at h
        · cases h
        · obtain rfl : run = first := List.mem_singleton.1 h
          exact ⟨[], y :: l, rfl, by simp, by simpa using hy⟩
      · obtain ⟨before, after, rfl, hbefore, hafter⟩ := ih h (of_mem_runs h).2
        refine ⟨first ++ y :: before, after, by simp, ?_, hafter⟩
        -- What comes last before the run is the separator or comes last in what is after it.
        rw [List.getLast?_append_of_ne_nil _ (List.cons_ne_nil y before)]
        cases before with
        | nil => simpa using hy
        | cons z before => simpa [List.getLast?_cons_cons] using hbefore
  · rintro ⟨hne, hrun, before, after, rfl, hbefore, hafter⟩
    have hfront : run ∈ runs separates (before ++ run) := by
      rw [runs_append_run hbefore hne hrun]
      exact List.mem_append_right _ List.mem_cons_self
    cases after with
    | nil => simpa using hfront
    | cons x after =>
      rw [← List.append_assoc, runs_append_cons (hafter x rfl)]
      exact List.mem_append_left _ hfront

/-- The runs of a list whose elements are mapped. -/
theorem runs_map {β : Type} (f : β → α) (l : List β) :
    runs separates (l.map f) = (runs (fun x => separates (f x)) l).map (List.map f) := by
  have hnone {run : List β} (hrun : ∀ x ∈ run, separates (f x) = false) :
      runs separates (run.map f) = (runs (fun x => separates (f x)) run).map (List.map f) := by
    rw [runs_of_none (by simpa using hrun), runs_of_none hrun]
    cases run <;> rfl
  induction l using run_induction fun x => separates (f x) with
  | last run hrun => exact hnone hrun
  | more run x l hrun hx ih =>
    have hboth : runs (fun x => separates (f x)) (run ++ x :: l) =
        runs (fun x => separates (f x)) run ++ runs (fun x => separates (f x)) l := by
      apply runs_append_cons
      exact hx
    rw [hboth, List.map_append, List.map_cons, runs_append_cons hx, ih, hnone hrun,
      List.map_append]

end Runs

variable {t u w : Text} {b : Char}

/-- The words of a text are its runs between blanks. -/
theorem words_eq_runs (t : Text) : words t = runs isBlank t := by
  have hfrom (word : Text) : wordsFrom word t =
      (List.splitOnPPrepend isBlank t word).filter fun run => !run.isEmpty := by
    induction t generalizing word with
    | nil => cases word <;> simp [wordsFrom, List.splitOnPPrepend]
    | cons c t ih =>
      rw [List.splitOnPPrepend_cons_eq_if, List.splitOnP_eq_splitOnPPrepend]
      cases word <;> simp only [wordsFrom] <;> split_ifs <;> simp [ih]
  rw [words, hfrom, runs, List.splitOnP_eq_splitOnPPrepend]

/-- The words of a text split at a blank. -/
theorem words_append_blank (hb : isBlank b = true) (t t' : Text) :
    words (t ++ b :: t') = words t ++ words t' := by
  rw [words_eq_runs, words_eq_runs, words_eq_runs, runs_append_cons hb]

/-- A text without blanks is one word, if it is not empty. -/
theorem words_of_none (h : ∀ c ∈ w, isBlank c = false) :
    words w = if w = [] then [] else [w] := by
  rw [words_eq_runs, runs_of_none h]

/-- Where the separators of a list stand for blanks, each of its runs stands for words of its
own. -/
theorem words_flatMap {α : Type} {separates : α → Bool} {l : List α} (f : α → Text)
    (h : ∀ x ∈ l, separates x = true → ∃ b, isBlank b = true ∧ f x = [b]) :
    words (l.flatMap f) = (runs separates l).flatMap fun run => words (run.flatMap f) := by
  have hrun {run : List α} (hnone : ∀ x ∈ run, separates x = false) :
      words (run.flatMap f) = (runs separates run).flatMap fun run => words (run.flatMap f) := by
    rw [runs_of_none hnone]
    split_ifs with hnil
    · rw [hnil]
      rfl
    · simp
  induction l using run_induction separates with
  | last run hnone => exact hrun hnone
  | more run x l hnone hx ih =>
    obtain ⟨b, hb, hfx⟩ := h x (by simp) hx
    have hl := ih fun y hy => h y (by simp [hy])
    rw [List.flatMap_append, List.flatMap_cons, hfx, List.singleton_append, words_append_blank hb,
      runs_append_cons hx, List.flatMap_append, hrun hnone, hl]

/-! ## First and last words -/

/-- What a text begins with up to a blank is the beginning of its first word. -/
theorem exists_first_word (hne : u ≠ []) (hu : ∀ c ∈ u, isBlank c = false) (t : Text) :
    ∃ v more, words (u ++ t) = (u ++ v) :: more := by
  have happend {v : Text} (hv : ∀ c ∈ v, isBlank c = false) : words (u ++ v) = [u ++ v] := by
    rw [words_of_none (by simpa [or_imp, forall_and] using ⟨hu, hv⟩), if_neg (by simp [hne])]
  induction t using run_induction isBlank with
  | last v hv => exact ⟨v, [], happend hv⟩
  | more v b t hv hb _ =>
    exact ⟨v, words t, by rw [← List.append_assoc, words_append_blank hb, happend hv]; rfl⟩

/-- What a text ends in after a blank is the end of its last word. -/
theorem exists_last_word (hne : u ≠ []) (hu : ∀ c ∈ u, isBlank c = false) (t : Text) :
    ∃ more v, words (t ++ u) = more ++ [v ++ u] := by
  induction t using run_induction isBlank with
  | last v hv =>
    refine ⟨[], v, ?_⟩
    rw [words_of_none (by simpa [or_imp, forall_and] using ⟨hv, hu⟩), if_neg (by simp [hne])]
    rfl
  | more v b t _ hb ih =>
    obtain ⟨more, v', h⟩ := ih
    refine ⟨words v ++ more, v', ?_⟩
    rw [List.append_assoc, List.cons_append, words_append_blank hb, h, List.append_assoc]

/-- A text that does not end in a blank is empty or ends in a word. -/
theorem exists_word_at_end (hend : ∀ c ∈ t.getLast?, isBlank c = false) :
    t = [] ∨ ∃ front w, t = front ++ w ∧ (∀ c ∈ front.getLast?, isBlank c = true) ∧ w ≠ [] ∧
      ∀ c ∈ w, isBlank c = false := by
  induction t using run_induction isBlank with
  | last w hw =>
    by_cases hne : w = []
    · exact .inl hne
    · exact .inr ⟨[], w, rfl, by simp, hne, hw⟩
  | more v b t _ hb ih =>
    right
    rw [List.getLast?_append] at hend
    cases t with
    | nil => simp [hb] at hend
    | cons d t =>
      have ht : ∀ c ∈ (d :: t).getLast?, isBlank c = false := by
        simpa [List.getLast?_cons_cons] using hend
      obtain ⟨front, w, hsplit, hfront, hne, hw⟩ := (ih ht).resolve_left (List.cons_ne_nil d t)
      refine ⟨v ++ b :: front, w, by rw [hsplit]; simp, ?_, hne, hw⟩
      -- The blank comes last before the word, or the blank that comes before it in the rest.
      intro c hc
      cases front with
      | nil =>
        simp only [List.getLast?_append, List.getLast?_singleton] at hc
        cases hc
        exact hb
      | cons e front => exact hfront c (by simpa [List.getLast?_append] using hc)

/-- A word at the end of a text is its last one. -/
theorem words_append_word (ht : ∀ c ∈ t.getLast?, isBlank c = true) (hne : w ≠ [])
    (hw : ∀ c ∈ w, isBlank c = false) : words (t ++ w) = words t ++ [w] := by
  rw [words_eq_runs, words_eq_runs, runs_append_run ht hne hw]

/-- Blanks at the end of a text add no words. -/
theorem words_append_gap {gap : Text} (hgap : ∀ c ∈ gap, isBlank c = true) (t : Text) :
    words (t ++ gap) = words t := by
  induction gap generalizing t with
  | nil => rw [List.append_nil]
  | cons b gap ih =>
    rw [words_append_blank (hgap b (by simp))]
    have hrest := ih (fun c hc => hgap c (by simp [hc])) []
    rw [List.nil_append] at hrest
    rw [hrest, words_of_none (w := []) (by simp), if_pos rfl, List.append_nil]

/-- A text is one that does not end in a blank, and blanks after it. -/
theorem exists_gap_at_end (t : Text) :
    ∃ body gap, t = body ++ gap ∧ (∀ c ∈ body.getLast?, isBlank c = false) ∧
      ∀ c ∈ gap, isBlank c = true := by
  induction t using List.reverseRecOn with
  | nil => exact ⟨[], [], rfl, by simp, by simp⟩
  | append_singleton t c ih =>
    cases hc : isBlank c with
    | false => exact ⟨t ++ [c], [], by simp, by simpa using hc, by simp⟩
    | true =>
      obtain ⟨body, gap, rfl, hbody, hgap⟩ := ih
      refine ⟨body, gap ++ [c], by simp, hbody, ?_⟩
      simpa [or_imp, forall_and, hc] using hgap

end MemberOutline.Text
