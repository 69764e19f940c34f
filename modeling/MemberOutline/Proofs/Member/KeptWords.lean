import MemberOutline.Member.Classify
import MemberOutline.Proofs.Member.Accessor
import MemberOutline.Proofs.Shape.Pieces

/-!
# Words with type arguments

The words of a leading text without its type arguments are told by the words that these are attached
to (`Word.bare`), and so are those of the text with them (`fullWords`). The two lists start with the
same modifiers, end in the same word and end in the same accessor exactly if no type arguments are
attached to certain words (`PlainModifiers`, `PlainLastWord`, `PlainLastTwo`).
-/

namespace MemberOutline.Member

open Shape (Word operatorWord)
open Text (words)

/-- Whether a word is a modifier and nothing is attached to it. -/
def isPlainModifier (w : Word) : Bool := !w.carries && modifierWords.contains w.bare

variable {ws : List Word} {w : Word}

/-- The words of a text with its type arguments. -/
def fullWords (ws : List Word) : List Text := ws.flatMap fun w => words w.full

/-- All words of a list are well formed, and none is empty. -/
abbrev AllWellFormed (ws : List Word) : Prop := ∀ w ∈ ws, w ≠ [] ∧ w.WellFormed

/-! ## When type arguments make no difference -/

/-- No type arguments are attached to a modifier that stands at the start or after plain ones. -/
def PlainModifiers (ws : List Word) : Prop :=
  ∀ w ∈ (ws.dropWhile isPlainModifier).take 1, w.carries = true → w.bare ∉ modifierWords

/-- The word `operator` is there with type arguments exactly if it is there without them. -/
def SameOperator (ws : List Word) : Prop :=
  operatorWord ∈ fullWords ws ↔ operatorWord ∈ ws.map Word.bare

/-- No type arguments are attached to the last word. -/
def PlainLastWord (ws : List Word) : Prop := ∀ w ∈ ws.drop (ws.length - 1), w.carries = false

/-- No type arguments are attached to the last two words. -/
def PlainLastTwo (ws : List Word) : Prop := ∀ w ∈ ws.drop (ws.length - 2), w.carries = false

instance (ws : List Word) : Decidable (PlainModifiers ws) :=
  inferInstanceAs (Decidable (∀ w ∈ (ws.dropWhile isPlainModifier).take 1,
    Word.carries w = true → Word.bare w ∉ modifierWords))

instance (ws : List Word) : Decidable (SameOperator ws) :=
  inferInstanceAs (Decidable (operatorWord ∈ fullWords ws ↔ operatorWord ∈ ws.map Word.bare))

instance (ws : List Word) : Decidable (PlainLastWord ws) :=
  inferInstanceAs (Decidable (∀ w ∈ ws.drop (ws.length - 1), Word.carries w = false))

instance (ws : List Word) : Decidable (PlainLastTwo ws) :=
  inferInstanceAs (Decidable (∀ w ∈ ws.drop (ws.length - 2), Word.carries w = false))

/-! ## Words with type arguments -/

/-- No angle is in a modifier. -/
theorem not_mem_of_modifier {modifier : Text} (h : modifier ∈ modifierWords) : '<' ∉ modifier := by
  have hall : ∀ modifier ∈ modifierWords, '<' ∉ modifier := by decide
  exact hall modifier h

/-- No angle is in a name. -/
theorem not_mem_of_isName {name : Text} (h : isName name = true) : '>' ∉ name := by
  cases name with
  | nil => cases h
  | cons c rest =>
    rw [isName, Bool.and_eq_true, List.all_eq_true] at h
    obtain ⟨hc, hrest⟩ := h
    rw [List.mem_cons, not_or]
    constructor
    · rintro rfl
      exact absurd hc (by decide)
    · exact fun hmem => absurd (hrest _ hmem) (by decide)

/-- A word without type arguments is the same when they are kept. -/
theorem words_full_of_plain (hne : w ≠ []) (h : w.WellFormed) (hplain : w.carries = false) :
    words w.full = [w.bare] := by
  rw [Shape.Word.full_eq_bare hplain, h.words_bare hne]

/-- A word with type arguments is no modifier without any. -/
theorem isPlainModifier_of_carries (h : w.carries = true) : isPlainModifier w = false := by
  rw [isPlainModifier, h]
  rfl

/-- A word without type arguments is a modifier without any exactly if it is a modifier. -/
theorem isPlainModifier_of_plain (h : w.carries = false) :
    isPlainModifier w = modifierWords.contains w.bare := by
  rw [isPlainModifier, h]
  rfl

/-- The words of a text whose last word is known. -/
theorem fullWords_concat (front : List Word) (w : Word) :
    fullWords (front ++ [w]) = fullWords front ++ words w.full := by
  simp [fullWords]

/-- A word without angles that ends a text with type arguments has none attached to it. -/
theorem exists_of_fullWords_concat (hws : AllWellFormed ws) {front : List Text} {x : Text}
    (hx : '>' ∉ x) (h : fullWords ws = front ++ [x]) :
    ∃ init w, ws = init ++ [w] ∧ w.carries = false ∧ w.bare = x ∧ fullWords init = front := by
  rcases List.eq_nil_or_concat ws with rfl | ⟨init, w, rfl⟩
  · simp [fullWords] at h
  rw [List.concat_eq_append] at hws h ⊢
  obtain ⟨hne, hwell⟩ := hws w (by simp)
  rw [fullWords_concat] at h
  cases hcarries : w.carries with
  | false =>
    rw [words_full_of_plain hne hwell hcarries] at h
    obtain ⟨hinit, hbare⟩ := List.append_inj' h rfl
    exact ⟨init, w, rfl, hcarries, (List.cons.inj hbare).1, hinit⟩
  | true =>
    obtain ⟨more, v, hwords, hmem, -⟩ := Shape.Word.exists_words_last hwell hcarries
    rw [hwords, ← List.append_assoc] at h
    obtain ⟨-, hv⟩ := List.append_inj' h rfl
    rw [(List.cons.inj hv).1] at hmem
    exact absurd hmem hx

section

variable (hws : AllWellFormed ws)

include hws

/-- With its type arguments a text starts with the plain modifiers. -/
theorem takeWhile_fullWords :
    (fullWords ws).takeWhile modifierWords.contains =
      (ws.takeWhile isPlainModifier).map Word.bare := by
  induction ws with
  | nil => rfl
  | cons w ws ih =>
    obtain ⟨hne, hwell⟩ := hws w List.mem_cons_self
    have hcons : fullWords (w :: ws) = words w.full ++ fullWords ws := rfl
    rw [hcons, List.takeWhile_cons]
    cases hcarries : w.carries with
    | false =>
      rw [words_full_of_plain hne hwell hcarries, List.singleton_append, List.takeWhile_cons,
        isPlainModifier_of_plain hcarries, ih fun v hv => hws v (List.mem_cons_of_mem w hv)]
      split_ifs <;> rfl
    | true =>
      -- The first word that it shows has a `<` and is no modifier.
      obtain ⟨v, more, hwords, hmem⟩ := Shape.Word.exists_words_first hwell hcarries
      have hv : v ∉ modifierWords := fun hv => not_mem_of_modifier hv hmem
      rw [hwords, List.cons_append, List.takeWhile_cons_of_neg (by simpa using hv),
        isPlainModifier_of_carries hcarries]
      rfl

/-- A text has no words with its type arguments exactly if it has none without them. -/
theorem fullWords_eq_nil_iff : fullWords ws = [] ↔ ws.map Word.bare = [] := by
  cases ws with
  | nil => exact iff_of_true rfl rfl
  | cons w ws =>
    obtain ⟨hne, hwell⟩ := hws w List.mem_cons_self
    have hshown : words w.full ≠ [] := by
      cases hcarries : w.carries with
      | false => simp [words_full_of_plain hne hwell hcarries]
      | true =>
        obtain ⟨v, more, hwords, -⟩ := Shape.Word.exists_words_first hwell hcarries
        simp [hwords]
    refine iff_of_false (fun h => ?_) (by simp)
    exact hshown (List.append_eq_nil_iff.1 h).1

omit hws in
/-- The modifiers without type arguments that a text starts with are all the modifiers that it
starts with exactly if no type arguments are attached to any of these. -/
theorem takeWhile_plain_eq_iff :
    (ws.takeWhile isPlainModifier).map Word.bare =
        (ws.map Word.bare).takeWhile modifierWords.contains ↔ PlainModifiers ws := by
  induction ws with
  | nil => exact iff_of_true rfl fun w hw => by cases hw
  | cons w ws ih =>
    unfold PlainModifiers at ih ⊢
    rw [List.map_cons, List.takeWhile_cons, List.takeWhile_cons, List.dropWhile_cons]
    cases hcontains : modifierWords.contains w.bare with
    | false =>
      -- The word is no modifier, so neither text goes on.
      have hplain : isPlainModifier w = false := by
        rw [isPlainModifier, hcontains, Bool.and_false]
      have hbare : w.bare ∉ modifierWords := by simpa using hcontains
      rw [hplain]
      refine iff_of_true rfl fun v hv _ => ?_
      obtain rfl : v = w := by simpa using hv
      exact hbare
    | true =>
      have hbare : w.bare ∈ modifierWords := by simpa using hcontains
      cases hcarries : w.carries with
      | false =>
        rw [isPlainModifier_of_plain hcarries, hcontains]
        simpa using ih
      | true =>
        rw [isPlainModifier_of_carries hcarries]
        refine iff_of_false (by simp) fun hall => ?_
        exact hall w (by simp) hcarries hbare

omit hws in
/-- The modifiers without type arguments that a text starts with are among the modifiers that it
starts with. -/
theorem mem_takeWhile_of_plain {x : Text}
    (h : x ∈ (ws.takeWhile isPlainModifier).map Word.bare) :
    x ∈ (ws.map Word.bare).takeWhile modifierWords.contains := by
  induction ws with
  | nil => cases h
  | cons w ws ih =>
    rw [List.takeWhile_cons] at h
    split_ifs at h with hplain
    · have hcontains : modifierWords.contains w.bare = true := (Bool.and_eq_true_iff.1 hplain).2
      rw [List.map_cons, List.takeWhile_cons_of_pos hcontains]
      rcases List.mem_cons.1 h with rfl | h
      · exact List.mem_cons_self
      · exact List.mem_cons_of_mem _ (ih h)
    · cases h

/-- With its type arguments a text ends in the same word exactly if no type arguments are attached
to that word. -/
theorem getLast?_fullWords_eq_iff :
    (fullWords ws).getLast?.getD [] = (ws.map Word.bare).getLast?.getD [] ↔ PlainLastWord ws := by
  rcases List.eq_nil_or_concat ws with rfl | ⟨front, w, rfl⟩
  · exact iff_of_true rfl fun w hw => by cases hw
  rw [List.concat_eq_append] at hws ⊢
  obtain ⟨hne, hwell⟩ := hws w (by simp)
  have hlast : PlainLastWord (front ++ [w]) ↔ w.carries = false := by
    simp [PlainLastWord]
  rw [hlast, fullWords_concat, List.map_append, List.map_singleton, List.getLast?_concat]
  cases hcarries : w.carries with
  | false =>
    rw [words_full_of_plain hne hwell hcarries, List.getLast?_concat]
    exact iff_of_true rfl rfl
  | true =>
    obtain ⟨more, v, hwords, -, hv⟩ := Shape.Word.exists_words_last hwell hcarries
    rw [hwords, ← List.append_assoc, List.getLast?_concat]
    exact iff_of_false hv Bool.noConfusion

/-- A text with type arguments ends in a keyword and a name exactly if it does so without its type
arguments and none are attached to these two words. -/
theorem exists_pair_fullWords_iff (a : Accessor) {name : Text} (hname : isName name = true) :
    (∃ front, fullWords ws = front ++ [a.keyword, name]) ↔
      (∃ front, ws.map Word.bare = front ++ [a.keyword, name]) ∧ PlainLastTwo ws := by
  have hkeyword : '>' ∉ a.keyword := by cases a <;> decide
  constructor
  · rintro ⟨front, h⟩
    have hpair : fullWords ws = (front ++ [a.keyword]) ++ [name] := by simpa using h
    obtain ⟨init, w, rfl, hw, rfl, hinit⟩ :=
      exists_of_fullWords_concat hws (not_mem_of_isName hname) hpair
    obtain ⟨init, v, rfl, hv, hbare, -⟩ :=
      exists_of_fullWords_concat (fun u hu => hws u (List.mem_append_left _ hu)) hkeyword hinit
    refine ⟨⟨init.map Word.bare, by simp [hbare]⟩, ?_⟩
    simp [PlainLastTwo, hv, hw]
  · rintro ⟨⟨front, h⟩, hplain⟩
    obtain ⟨init, pair, rfl, -, hpair⟩ := List.map_eq_append_iff.1 h
    obtain ⟨v, rest, rfl, hv, hrest⟩ := List.map_eq_cons_iff.1 hpair
    obtain ⟨w, rest, rfl, hw, hnil⟩ := List.map_eq_cons_iff.1 hrest
    obtain rfl := List.map_eq_nil_iff.1 hnil
    have hplain : v.carries = false ∧ w.carries = false := by simpa [PlainLastTwo] using hplain
    obtain ⟨hvne, hvwell⟩ := hws v (by simp)
    obtain ⟨hwne, hwwell⟩ := hws w (by simp)
    refine ⟨fullWords init, ?_⟩
    have hsplit : fullWords (init ++ [v, w]) =
        fullWords init ++ (words v.full ++ words w.full) := by simp [fullWords]
    rw [hsplit, words_full_of_plain hvne hvwell hplain.1,
      words_full_of_plain hwne hwwell hplain.2, hv, hw]
    rfl

end

end MemberOutline.Member
