import MemberOutline.Member.Classify
import MemberOutline.Proofs.Shape.DepthZero
import MemberOutline.Proofs.Shape.Refinement

/-!
# Members with a body

A member other than a field has a body if a curly bracket or an arrow is in its sequence. The
sequence has the tokens of the reference scan but for round brackets, so these are there exactly if
they stand in the code outside all brackets, whatever the guesses at type arguments
(`hasBody_iff`). No two tokens spell an arrow together, since only an arrow has a `>`.
-/

namespace MemberOutline.Member

open Shape (openBrackets equalsAtEnd OmitsRound isRound)
open Shape.Reference (tokenTexts)

variable {kept all : List Text} {u sequence : Text}

/-! ## Arrows -/

/-- A text with an arrow in it has an arrow. -/
theorem hasArrow_append (a b : Text) : hasArrow (a ++ '=' :: '>' :: b) = true := by
  induction a with
  | nil => rfl
  | cons c a ih => rw [List.cons_append, hasArrow, ih, Bool.or_true]

/-- Where an arrow is found, there is a `>`. -/
theorem mem_of_hasArrow (h : hasArrow sequence = true) : '>' ∈ sequence := by
  induction sequence with
  | nil => cases h
  | cons c sequence ih =>
    rw [hasArrow, Bool.or_eq_true, Bool.and_eq_true, decide_eq_true_eq, decide_eq_true_eq] at h
    rcases h with ⟨-, hhead⟩ | hlater
    · exact List.mem_cons_of_mem c (List.mem_of_mem_head? hhead)
    · exact List.mem_cons_of_mem c (ih hlater)

/-- In tokens one after the other an arrow is found exactly if it is one of them. -/
theorem hasArrow_flatten_iff (h : ∀ u ∈ kept, u ∈ tokenTexts) :
    hasArrow kept.flatten = true ↔ ['=', '>'] ∈ kept := by
  constructor
  · intro harrow
    obtain ⟨u, hu, hmem⟩ := List.mem_flatten.1 (mem_of_hasArrow harrow)
    have honly : ∀ u ∈ tokenTexts, '>' ∈ u → u = ['=', '>'] := by decide
    rwa [← honly u (h u hu) hmem]
  · intro hmem
    obtain ⟨before, after, rfl⟩ := List.append_of_mem hmem
    rw [List.flatten_append, List.flatten_cons]
    exact hasArrow_append _ _

/-- A curly bracket is in tokens one after the other exactly if it is one of them. -/
theorem mem_flatten_iff (h : ∀ u ∈ kept, u ∈ tokenTexts) :
    '{' ∈ kept.flatten ↔ ['{'] ∈ kept := by
  constructor
  · intro hmem
    obtain ⟨u, hu, hcurly⟩ := List.mem_flatten.1 hmem
    have honly : ∀ u ∈ tokenTexts, '{' ∈ u → u = ['{'] := by decide
    rwa [← honly u (h u hu) hcurly]
  · exact fun hmem => List.mem_flatten.2 ⟨['{'], hmem, List.mem_cons_self⟩

/-! ## The tokens of a sequence -/

/-- Tokens other than round brackets are not left out. -/
theorem mem_iff_of_omitsRound (h : OmitsRound kept all) (hu : isRound u = false) :
    u ∈ kept ↔ u ∈ all := by
  have hfilter (us : List Text) : u ∈ us.filter (!isRound ·) ↔ u ∈ us := by
    rw [List.mem_filter]
    simp [hu]
  rw [← hfilter kept, h.2, hfilter all]

/-- A curly bracket or an arrow is in the sequence of a text exactly if it is a token of the
reference scan. -/
theorem bodyOf_iff (strip : Bool) (t : Text) {kind : Kind} (hkind : kind ≠ .field) :
    bodyOf kind (Shape.ofText strip t).sequence = true ↔
      ['{'] ∈ (Shape.Reference.ofText t).tokens ∨
        ['=', '>'] ∈ (Shape.Reference.ofText t).tokens := by
  have hsimulates := Shape.simulates_ofText
    (Shape.path_unpromised (Text.path_walk Shape.Scan.start [] t))
  obtain ⟨kept, hflatten, homits, -⟩ := hsimulates.sequence strip
  have htexts : ∀ u ∈ kept, u ∈ tokenTexts := fun u hu =>
    Shape.Reference.mem_tokenTexts_of_foldl _ .start (fun _ h => by cases h) (homits.1.subset hu)
  have hbody : bodyOf kind (Shape.ofText strip t).sequence =
      (kept.flatten.contains '{' || hasArrow kept.flatten) := by
    rw [hflatten]
    cases kind with
    | field => exact absurd rfl hkind
    | _ => rfl
  rw [hbody, Bool.or_eq_true, List.contains_iff_mem, mem_flatten_iff htexts,
    hasArrow_flatten_iff htexts, mem_iff_of_omitsRound homits (by decide),
    mem_iff_of_omitsRound homits (by decide)]

/-! ## Places of the code -/

variable {view : List (Option Char)} {x y : Option Char} {i : Nat}

/-- An arrow begins at a place of a view: an equals sign with a `>` right after it, and not the
second one of a pair, as equals signs pair up from the left. -/
def ArrowBegins (view : List (Option Char)) (i : Nat) : Prop :=
  view[i]? = some (some '=') ∧ view[i + 1]? = some (some '>') ∧
    Even (equalsAtEnd (view.take i))

instance (view : List (Option Char)) (i : Nat) : Decidable (ArrowBegins view i) :=
  inferInstanceAs (Decidable (_ ∧ _ ∧ _))

/-- A view consists of what is before one of its places, that place and what is after it. -/
theorem eq_take_append (h : view[i]? = some x) : view = view.take i ++ x :: view.drop (i + 1) := by
  obtain ⟨hi, rfl⟩ := List.getElem?_eq_some_iff.1 h
  rw [← List.drop_eq_getElem_cons hi, List.take_append_drop]

/-- The place of a view right after its first part is the next one. -/
theorem getElem?_length (a b : List (Option Char)) (x : Option Char) :
    (a ++ x :: b)[a.length]? = some x := by
  rw [List.getElem?_append_right (Nat.le_refl _), Nat.sub_self]
  rfl

/-- A curly bracket is a token of the reference scan exactly if it stands outside all brackets. -/
theorem curly_mem_tokens_iff (view : List (Option Char)) :
    ['{'] ∈ (Shape.Reference.ofView view).tokens ↔
      ∃ i, openBrackets (view.take i) = [] ∧ view[i]? = some (some '{') := by
  rw [Shape.mem_tokens_iff (by decide) (by decide)]
  constructor
  · rintro ⟨a, b, rfl, hopen, -⟩
    exact ⟨a.length, by rwa [List.take_left], getElem?_length a b _⟩
  · rintro ⟨i, hopen, hplace⟩
    exact ⟨view.take i, view.drop (i + 1), eq_take_append hplace, hopen, by rintro ⟨⟩⟩

/-- An arrow is a token of the reference scan exactly if it begins outside all brackets. -/
theorem arrow_mem_tokens_iff (view : List (Option Char)) :
    ['=', '>'] ∈ (Shape.Reference.ofView view).tokens ↔
      ∃ i, openBrackets (view.take i) = [] ∧ ArrowBegins view i := by
  rw [Shape.mem_tokens_iff (by decide) (by decide)]
  constructor
  · rintro ⟨a, b, rfl, hopen, heven⟩
    refine ⟨a.length, by rwa [List.take_left], getElem?_length a _ _, ?_, ?_⟩
    · have hnext := getElem?_length (a ++ [some '=']) b (some '>')
      rwa [List.append_assoc, List.length_append] at hnext
    · rw [List.take_left]
      exact heven rfl
  · rintro ⟨i, hopen, hplace, hnext, heven⟩
    have hrest : view.drop (i + 1) = some '>' :: view.drop (i + 2) := by
      obtain ⟨hi, hvalue⟩ := List.getElem?_eq_some_iff.1 hnext
      rw [List.drop_eq_getElem_cons hi, hvalue]
    refine ⟨view.take i, view.drop (i + 2), ?_, hopen, fun _ => heven⟩
    conv_lhs => rw [eq_take_append hplace, hrest]
    rfl

/-! ## The body -/

/-- A member that is no field has a body exactly if a curly bracket stands, or an arrow begins, in
the code of its declaration outside all round, square and curly brackets. -/
theorem hasBody_iff (strip : Bool) (t : Text) (className : Option Text)
    (hkind : (ofText strip t className).kind ≠ .field) :
    (ofText strip t className).hasBody = true ↔
      ∃ i, openBrackets ((Literal.codeView t).take i) = [] ∧
        ((Literal.codeView t)[i]? = some (some '{') ∨ ArrowBegins (Literal.codeView t) i) := by
  have hbody := bodyOf_iff strip t hkind
  rw [Shape.Reference.ofText, curly_mem_tokens_iff, arrow_mem_tokens_iff, ← exists_or] at hbody
  simp only [← and_or_left] at hbody
  exact hbody

/-- The arrow of a getter after type arguments with brackets of their own. -/
theorem hasBody_of_arrowGetter :
    (ofText true "Set<F({int a})> get s => t<u;".toList none).kind ≠ .field ∧
      (ofText true "Set<F({int a})> get s => t<u;".toList none).hasBody = true := by
  have hkind : (ofText true "Set<F({int a})> get s => t<u;".toList none).kind ≠ .field := by decide
  refine ⟨hkind, (hasBody_iff true _ none hkind).2 ⟨22, ?_, .inr ?_⟩⟩ <;> decide

end MemberOutline.Member
