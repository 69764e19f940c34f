import MemberOutline.Member.Classify
import MemberOutline.Proofs.Shape.Trimming

/-!
# The member of a trimmed text

Trimming a declaration makes no difference to the member that it declares (`ofText_trim`). Besides
the shape, a member depends on its text by the name of an operator. A blank does not belong to the
word `operator` or to a symbol, and no word reaches over it, so that blanks at the ends of the text
are passed over in the search for that name (`operatorName_trim`).
-/

namespace MemberOutline.Member

open Text (isBlank)

variable {blanks : Text}

/-- No blank belongs to a word. -/
theorem not_isWordChar_of_isBlank {c : Char} (h : isBlank c = true) : Text.isWordChar c = false :=
  -- As with identifiers, there are few blanks to look up in a long table.
  Shape.of_isBlank (P := fun c => Text.isWordChar c = false) (by decide +kernel) h

/-- What begins a text is a part of it that blanks after it do not change. -/
theorem takeWhile_append_blanks {p : Char → Bool} (hp : ∀ c, isBlank c = true → p c = false)
    (hblanks : ∀ c ∈ blanks, isBlank c = true) (t : Text) :
    (t ++ blanks).takeWhile p = t.takeWhile p := by
  have hnone : blanks.takeWhile p = [] := by
    cases blanks with
    | nil => rfl
    | cons c blanks => rw [List.takeWhile_cons, hp c (hblanks c List.mem_cons_self)]; rfl
  rw [List.takeWhile_append, hnone, List.append_nil]
  split_ifs with hall
  · exact ((List.takeWhile_prefix p).eq_of_length hall).symm
  · rfl

/-- Blanks at the end of a text do not change the symbol that it starts with. -/
theorem operatorSymbolHere?_append_blanks (hblanks : ∀ c ∈ blanks, isBlank c = true) (t : Text) :
    operatorSymbolHere? (t ++ blanks) = operatorSymbolHere? t := by
  have hword : Shape.operatorWord.isPrefixOf (t ++ blanks) = Shape.operatorWord.isPrefixOf t := by
    refine Literal.isPrefixOf_append_of_head? (fun c hc => ?_) t
    exact Shape.Scan.not_mem_of_isBlank (by decide) (hblanks c (List.mem_of_mem_head? hc))
  unfold operatorSymbolHere? Text.after?
  rw [hword]
  split_ifs with hprefix
  · have hlength := (List.isPrefixOf_iff_prefix.1 hprefix).length_le
    have hsymbol (rest : Text) : ((Text.trimStart (rest ++ blanks)).takeWhile
          fun c => !isBlank c && c ≠ '(') =
        (Text.trimStart rest).takeWhile fun c => !isBlank c && c ≠ '(' := by
      unfold Text.trimStart
      rw [List.dropWhile_append]
      split_ifs with hempty
      · -- Nothing but blanks follows the word.
        rw [List.isEmpty_iff.1 hempty, List.dropWhile_eq_nil_iff.2 hblanks]
      · exact takeWhile_append_blanks (fun c hc => by rw [hc]; rfl) hblanks _
    simp only [List.drop_append_of_le_length hlength, hsymbol]
  · rfl

/-- No symbol starts at a blank, and no word reaches over it. -/
theorem operatorSymbolFrom?_blank {c : Char} (hc : isBlank c = true) (inWord : Bool) (t : Text) :
    operatorSymbolFrom? inWord (c :: t) = operatorSymbolFrom? false t := by
  have hne : 'o' ≠ c := by
    rintro rfl
    exact absurd hc (by decide)
  have hnone : Shape.operatorWord.isPrefixOf (c :: t) = false :=
    (congrArg (· && _) (beq_eq_false_iff_ne.2 hne)).trans (Bool.false_and _)
  have hhere : operatorSymbolHere? (c :: t) = none := by
    unfold operatorSymbolHere? Text.after?
    rw [hnone]
    rfl
  rw [operatorSymbolFrom?, not_isWordChar_of_isBlank hc, hhere, ite_self]
  rfl

/-- Blanks at the start of a text do not change the first symbol in it. -/
theorem operatorSymbolFrom?_blanks_append (hblanks : ∀ c ∈ blanks, isBlank c = true) (t : Text) :
    operatorSymbolFrom? false (blanks ++ t) = operatorSymbolFrom? false t := by
  induction blanks with
  | nil => rfl
  | cons c blanks ih =>
    rw [List.cons_append, operatorSymbolFrom?_blank (hblanks c List.mem_cons_self),
      ih fun d hd => hblanks d (List.mem_cons_of_mem c hd)]

/-- Blanks at the end of a text do not change the first symbol in it. -/
theorem operatorSymbolFrom?_append_blanks (hblanks : ∀ c ∈ blanks, isBlank c = true)
    (inWord : Bool) (t : Text) :
    operatorSymbolFrom? inWord (t ++ blanks) = operatorSymbolFrom? inWord t := by
  induction t generalizing inWord with
  | cons c t ih =>
    have hhere := operatorSymbolHere?_append_blanks hblanks (c :: t)
    rw [List.cons_append] at hhere ⊢
    rw [operatorSymbolFrom?, operatorSymbolFrom?, hhere, ih]
  | nil =>
    -- There is no symbol in the blanks alone.
    cases blanks with
    | nil => rfl
    | cons c blanks =>
      have hnone := operatorSymbolFrom?_blanks_append
        (fun d hd => hblanks d (List.mem_cons_of_mem c hd)) []
      rw [List.append_nil] at hnone
      rw [List.nil_append, operatorSymbolFrom?_blank (hblanks c List.mem_cons_self), hnone]
      rfl

/-- The name of an operator is found in the trimmed text. -/
theorem operatorName_trim (t : Text) : operatorName (Text.trim t) = operatorName t := by
  obtain ⟨front, back, hsplit, hfront, hback⟩ := Text.exists_eq_trim t
  conv_rhs => rw [hsplit]
  unfold operatorName
  rw [operatorSymbolFrom?_blanks_append hfront, operatorSymbolFrom?_append_blanks hback]

/-- Of the declaration itself a member shows, besides the shape, the name of an operator. -/
theorem ofShape_of_operatorName {t u : Text} (h : operatorName t = operatorName u) (shape : Shape)
    (className : Option Text) : ofShape t shape className = ofShape u shape className := by
  unfold ofShape kindAndName
  rw [h]

/-- Trimming a declaration makes no difference to the member that it declares. -/
theorem ofText_trim (strip : Bool) (t : Text) (className : Option Text) :
    ofText strip (Text.trim t) className = ofText strip t className := by
  unfold ofText
  rw [Shape.shape_trim, ofShape_of_operatorName (operatorName_trim t)]

end MemberOutline.Member
