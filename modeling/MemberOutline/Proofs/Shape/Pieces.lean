import MemberOutline.Proofs.Shape.Attached
import MemberOutline.Proofs.Text.Words

/-!
# The words of a leading text and their type arguments

A leading text is a list of pieces, each a character with the type arguments right after it, and
blanks separate the words in it (`Collected.words`). Without type arguments each of these is one
word (`Collected.Attached.words_render_true`); with them it may be several
(`Collected.Attached.words_render_false`), of which the first has a `<` and the last a `>` if type
arguments are attached to it (`Word.exists_words_first`, `Word.exists_words_last`). The last one is
never the word without them, since they stand after an identifier.
-/

namespace MemberOutline.Shape

open Text (isBlank isIdentifierChar)

/-- A character of a text with the type arguments right after it. -/
structure Piece where
  /-- The character. -/
  char : Char
  /-- The type arguments, if there are any. -/
  arguments : Text
  deriving DecidableEq, Repr

namespace Piece

/-- The text of a piece. -/
def full (p : Piece) : Text := p.char :: p.arguments

/-- The pieces of a text with type arguments right after it. -/
def attach (arguments : Text) : Text → List Piece
  | [] => []
  | [c] => [⟨c, arguments⟩]
  | c :: d :: t => ⟨c, []⟩ :: attach arguments (d :: t)

/-- The characters of the pieces are those of the text. -/
theorem map_char_attach (arguments t : Text) : (attach arguments t).map char = t := by
  induction t using attach.induct with
  | case1 => rfl
  | case2 c => rfl
  | case3 c d t ih => rw [attach, List.map_cons, ih]

/-- The pieces of a text with type arguments right after it have as their text the whole of the
two. -/
theorem flatMap_full_attach (arguments : Text) {t : Text} (ht : t = [] → arguments = []) :
    (attach arguments t).flatMap full = t ++ arguments := by
  induction t using attach.induct with
  | case1 => rw [ht rfl]; rfl
  | case2 c => simp [attach, full]
  | case3 c d t ih =>
    rw [attach, List.flatMap_cons, ih (by simp)]
    rfl

/-- The type arguments after a text stand after its last character. -/
theorem of_mem_attach {arguments t : Text} {p : Piece} (h : p ∈ attach arguments t) :
    p.arguments = [] ∨ p.arguments = arguments ∧ t.getLast? = some p.char := by
  induction t using attach.induct with
  | case1 => cases h
  | case2 c =>
    obtain rfl : p = ⟨c, arguments⟩ := by simpa [attach] using h
    exact .inr ⟨rfl, rfl⟩
  | case3 c d t ih =>
    rw [attach] at h
    rcases List.mem_cons.1 h with rfl | h
    · exact .inl rfl
    · rw [List.getLast?_cons_cons]
      exact ih h

end Piece

/-! ## Words of pieces -/

/-- A word of a leading text as it stands there. -/
abbrev Word := List Piece

namespace Word

/-- A word of a leading text without its type arguments. -/
def bare (w : Word) : Text := w.map Piece.char

/-- A word of a leading text with its type arguments. -/
def full (w : Word) : Text := w.flatMap Piece.full

/-- Whether type arguments are attached to a word. -/
def carries (w : Word) : Bool := w.any fun p => p.arguments ≠ []

/-- No piece of a word is a blank, and type arguments in it stand after an identifier and go from a
`<` to a `>`. -/
structure WellFormed (w : Word) : Prop where
  /-- No piece is a blank. -/
  solid : ∀ p ∈ w, isBlank p.char = false
  /-- Type arguments stand after an identifier. -/
  identifier : ∀ p ∈ w, p.arguments ≠ [] → isIdentifierChar p.char = true
  /-- Type arguments begin with a `<`. -/
  first : ∀ p ∈ w, p.arguments ≠ [] → p.arguments.head? = some '<'
  /-- Type arguments end in a `>`. -/
  last : ∀ p ∈ w, p.arguments ≠ [] → p.arguments.getLast? = some '>'

variable {w : Word} {p : Piece}

/-- What holds of the pieces of a word holds of those after the first. -/
theorem WellFormed.tail (h : WellFormed (p :: w)) : WellFormed w where
  solid q hq := h.solid q (List.mem_cons_of_mem p hq)
  identifier q hq := h.identifier q (List.mem_cons_of_mem p hq)
  first q hq := h.first q (List.mem_cons_of_mem p hq)
  last q hq := h.last q (List.mem_cons_of_mem p hq)

/-- A word without type arguments has no blanks. -/
theorem WellFormed.solid_bare (h : w.WellFormed) : ∀ c ∈ w.bare, isBlank c = false := by
  intro c hc
  obtain ⟨p, hp, rfl⟩ := List.mem_map.1 hc
  exact h.solid p hp

/-- A word without type arguments is one word. -/
theorem WellFormed.words_bare (h : w.WellFormed) (hne : w ≠ []) : Text.words w.bare = [w.bare] := by
  rw [Text.words_of_none h.solid_bare, if_neg]
  exact fun hnil => hne (List.map_eq_nil_iff.1 hnil)

/-- A word to which nothing is attached is the same with its type arguments. -/
theorem full_eq_bare (h : w.carries = false) : w.full = w.bare := by
  induction w with
  | nil => rfl
  | cons p w ih =>
    simp only [carries, List.any_cons, Bool.or_eq_false_iff, decide_eq_false_iff_not,
      Decidable.not_not] at h
    rw [full, List.flatMap_cons, Piece.full, h.1, bare, List.map_cons]
    exact congrArg (p.char :: ·) (ih h.2)

/-- What a word with type arguments shows has no blank up to its first `<`. -/
theorem exists_shown_first (h : w.WellFormed) (hcarries : w.carries = true) :
    ∃ u t, w.full = u ++ t ∧ '<' ∈ u ∧ ∀ c ∈ u, isBlank c = false := by
  induction w with
  | nil => cases hcarries
  | cons p w ih =>
    have hchar := h.solid p (List.mem_cons_self)
    by_cases hp : p.arguments = []
    · have hw : carries w = true := by simpa [carries, hp] using hcarries
      obtain ⟨u, t, hfull, hmem, hu⟩ := ih h.tail hw
      refine ⟨p.char :: u, t, ?_, List.mem_cons_of_mem _ hmem, ?_⟩
      · rw [full, List.flatMap_cons, Piece.full, hp]
        exact congrArg (p.char :: ·) hfull
      · simpa [hchar] using hu
    · obtain ⟨inner, hinner⟩ := List.head?_eq_some_iff.1 (h.first p (List.mem_cons_self) hp)
      refine ⟨[p.char, '<'], inner ++ full w, ?_, by simp, ?_⟩
      · rw [full, List.flatMap_cons, Piece.full, hinner]
        rfl
      · simp only [List.mem_cons, List.not_mem_nil, or_false]
        rintro c (rfl | rfl)
        · exact hchar
        · decide

/-- A word with type arguments ends in its last ones, and in pieces without any after them. -/
theorem exists_last_arguments (hcarries : w.carries = true) :
    ∃ front p back, w = front ++ p :: back ∧ p.arguments ≠ [] ∧ carries back = false := by
  induction w with
  | nil => cases hcarries
  | cons p w ih =>
    cases hw : carries w with
    | true =>
      obtain ⟨front, q, back, rfl, hq, hback⟩ := ih hw
      exact ⟨p :: front, q, back, rfl, hq, hback⟩
    | false =>
      refine ⟨[], p, w, rfl, ?_, hw⟩
      rw [carries, List.any_cons, show w.any _ = false from hw, Bool.or_false] at hcarries
      exact of_decide_eq_true hcarries

/-- Of the words that a word with type arguments shows the first one has a `<`. -/
theorem exists_words_first (h : w.WellFormed) (hcarries : w.carries = true) :
    ∃ v more, Text.words w.full = v :: more ∧ '<' ∈ v := by
  obtain ⟨u, t, hfull, hmem, hu⟩ := exists_shown_first h hcarries
  obtain ⟨v, more, hwords⟩ := Text.exists_first_word (List.ne_nil_of_mem hmem) hu t
  exact ⟨u ++ v, more, by rw [hfull, hwords], List.mem_append_left v hmem⟩

/-- Of the words that a word with type arguments shows the last one has a `>`, and it is not the
word without them. -/
theorem exists_words_last (h : w.WellFormed) (hcarries : w.carries = true) :
    ∃ more v, Text.words w.full = more ++ [v] ∧ '>' ∈ v ∧ v ≠ w.bare := by
  obtain ⟨front, p, back, rfl, hp, hback⟩ := exists_last_arguments hcarries
  have hmem : p ∈ front ++ p :: back := by simp
  obtain ⟨inner, hinner⟩ := List.getLast?_eq_some_iff.1 (h.last p hmem hp)
  have hshown : ∀ c ∈ '>' :: bare back, isBlank c = false := by
    simp only [List.mem_cons]
    rintro c (rfl | hc)
    · decide
    · refine h.solid_bare c ?_
      rw [bare, List.map_append, List.map_cons]
      exact List.mem_append_right _ (List.mem_cons_of_mem _ hc)
  have hfull : full (front ++ p :: back) =
      (full front ++ p.char :: inner) ++ '>' :: bare back := by
    rw [← full_eq_bare hback]
    simp [full, Piece.full, hinner]
  obtain ⟨more, v, hwords⟩ :=
    Text.exists_last_word (List.cons_ne_nil _ _) hshown (full front ++ p.char :: inner)
  refine ⟨more, v ++ '>' :: bare back, by rw [hfull, hwords], by simp, fun heq => ?_⟩
  -- The last type arguments end in a `>`, and what they are attached to is an identifier.
  have hbefore : v ++ ['>'] = bare front ++ [p.char] := by
    have hsame : (v ++ ['>']) ++ bare back = (bare front ++ [p.char]) ++ bare back := by
      simpa [bare] using heq
    exact List.append_cancel_right hsame
  have hchar : p.char = '>' := by simpa using (congrArg List.getLast? hbefore).symm
  have hidentifier := h.identifier p hmem hp
  rw [hchar] at hidentifier
  exact absurd hidentifier (by decide)

end Word

/-! ## The words of a leading text -/

/-- The pieces of what is collected, each a character with the type arguments right after it. -/
def Collected.pieces (collected : Collected) : List Piece :=
  collected.groups.flatMap (fun (t, arguments) => Piece.attach arguments t) ++
    Piece.attach [] collected.text

/-- The words of what is collected as they stand in it, with the type arguments attached to them. -/
def Collected.words (collected : Collected) : List Word :=
  Text.runs (fun p => isBlank p.char) collected.pieces

namespace Collected

variable {collected : Collected} {w : Word}

/-- What is collected without its type arguments has the characters of its pieces as its text. -/
theorem render_true (collected : Collected) :
    collected.render true = collected.pieces.map Piece.char := by
  unfold render pieces
  rw [List.map_append, List.map_flatMap, Piece.map_char_attach]
  simp only [Piece.map_char_attach, if_pos]

/-- What is collected with its type arguments has the texts of its pieces as its text. -/
theorem Attached.render_false (h : collected.Attached) :
    collected.render false = collected.pieces.flatMap Piece.full := by
  unfold render pieces
  rw [List.flatMap_append, List.flatMap_assoc, Piece.flatMap_full_attach [] (fun _ => rfl),
    List.append_nil]
  congr 1
  refine List.flatMap_congr fun p hp => ?_
  rw [Piece.flatMap_full_attach p.2 fun hnil => absurd hnil (h.before p hp).ne_nil]
  rfl

/-- In the pieces of what is collected type arguments stand after an identifier, and they go from a
`<` to a `>`. -/
theorem Attached.of_mem_pieces (h : collected.Attached) {p : Piece} (hp : p ∈ collected.pieces)
    (hne : p.arguments ≠ []) : isIdentifierChar p.char = true ∧ p.arguments.head? = some '<' ∧
      p.arguments.getLast? = some '>' := by
  rcases List.mem_append.1 hp with hp | hp
  · obtain ⟨q, hq, hp⟩ := List.mem_flatMap.1 hp
    obtain ⟨harguments, hlast⟩ := (Piece.of_mem_attach hp).resolve_left hne
    have hbefore := h.before q hq
    rw [EndsNamed, hlast, Option.any_some] at hbefore
    rw [harguments]
    exact ⟨hbefore, h.first q hq, h.last q hq⟩
  · rcases Piece.of_mem_attach hp with hnil | ⟨hnil, -⟩ <;> contradiction

/-- A word of what is collected is not empty and well formed. -/
theorem Attached.of_mem_words (h : collected.Attached) (hw : w ∈ collected.words) :
    w ≠ [] ∧ w.WellFormed := by
  obtain ⟨hne, hall⟩ := Text.of_mem_runs hw
  exact ⟨hne, fun p hp => (hall p hp).2,
    fun p hp hne => (h.of_mem_pieces (hall p hp).1 hne).1,
    fun p hp hne => (h.of_mem_pieces (hall p hp).1 hne).2.1,
    fun p hp hne => (h.of_mem_pieces (hall p hp).1 hne).2.2⟩

/-- Without type arguments each word of what is collected is one word. -/
theorem Attached.words_render_true (h : collected.Attached) :
    Text.words (collected.render true) = collected.words.map Word.bare := by
  have hone (w : Word) (hw : w ∈ collected.words) :
      Text.words (w.flatMap fun p => [p.char]) = [w.bare] := by
    obtain ⟨hne, hwell⟩ := h.of_mem_words hw
    have hbare : (w.flatMap fun p => [p.char]) = w.bare := List.map_eq_flatMap.symm
    rw [hbare, hwell.words_bare hne]
  calc Text.words (collected.render true)
      = Text.words (collected.pieces.flatMap fun p => [p.char]) := by
        rw [render_true, List.map_eq_flatMap]
    _ = collected.words.flatMap fun w => Text.words (w.flatMap fun p => [p.char]) :=
        Text.words_flatMap _ fun p _ hp => ⟨p.char, hp, rfl⟩
    _ = collected.words.flatMap fun w => [w.bare] := List.flatMap_congr hone
    _ = collected.words.map Word.bare := List.map_eq_flatMap.symm

/-- With type arguments each word of what is collected may be several words. -/
theorem Attached.words_render_false (h : collected.Attached) :
    Text.words (collected.render false) = collected.words.flatMap fun w => Text.words w.full := by
  rw [h.render_false]
  refine Text.words_flatMap Piece.full fun p hp hblank => ⟨p.char, hblank, ?_⟩
  -- Nothing is attached to a blank.
  by_cases hne : p.arguments = []
  · rw [Piece.full, hne]
  · have hidentifier := (h.of_mem_pieces hp hne).1
    rw [not_isIdentifierChar_of_isBlank hblank] at hidentifier
    cases hidentifier

/-- What is collected ends in no blank, with its type arguments or without them. -/
theorem Attached.endsSolid_render (h : collected.Attached) (strip : Bool) :
    EndsSolid (collected.render strip) := by
  unfold render
  by_cases htext : collected.text = []
  · -- The last type arguments end the text, or what they are attached to does.
    rw [htext, List.append_nil]
    rcases List.eq_nil_or_concat collected.groups with hnil | ⟨front, ⟨before, arguments⟩, hgroups⟩
    · rw [hnil]
      exact fun c hc => by cases hc
    · have hmem : (before, arguments) ∈ collected.groups := by simp [hgroups]
      have hbefore : EndsNamed before := h.before _ hmem
      have hne := hbefore.ne_nil
      have hlast : arguments.getLast? = some '>' := h.last _ hmem
      rw [hgroups, List.concat_eq_append, List.flatMap_append, List.flatMap_singleton]
      cases strip with
      | true =>
        simp only [if_true]
        intro c hc
        rw [List.getLast?_append_of_ne_nil _ hne] at hc
        exact hbefore.solid c hc
      | false =>
        simp only [Bool.false_eq_true, if_false]
        intro c hc
        rw [← List.append_assoc, List.getLast?_append_of_ne_nil _ (by rintro rfl; cases hlast),
          hlast] at hc
        cases hc
        decide
  · intro c hc
    rw [List.getLast?_append_of_ne_nil _ htext] at hc
    exact h.after c hc

end Collected

end MemberOutline.Shape
