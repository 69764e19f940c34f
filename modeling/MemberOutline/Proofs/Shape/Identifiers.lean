import MemberOutline.Proofs.Shape.Wording

/-!
# The identifiers of a leading text

An identifier in a leading text stems from the code up to the end of the leading text: it is what
remains of a stretch that begins where an identifier of the code begins and ends where one ends. So
it is an identifier of the code itself wherever these are kept apart by more than what is left out
(`identifiers_of_leadingText`). Two that stand directly on both sides of type arguments that are
dropped, or of an equals sign that is passed over, become one (`identifiers_adjoin`).
-/

namespace MemberOutline.Shape

open Text (isIdentifierChar)

variable {view after word : List (Option Char)}

/-- An identifier of a view is one of a longer view that goes on with no identifier. -/
theorem shownIdentifiers_append (h : word ∈ shownIdentifiers view)
    (hafter : ∀ x ∈ after.head?, x.any isIdentifierChar = false) :
    word ∈ shownIdentifiers (view ++ after) := by
  obtain ⟨hne, hword, before, behind, rfl, hbefore, hbehind⟩ := Text.mem_runs_iff.1 h
  refine Text.mem_runs_iff.2 ⟨hne, hword, before, behind ++ after, by simp, hbefore, fun x hx => ?_⟩
  cases behind with
  | nil =>
    rw [hafter x hx]
    rfl
  | cons y behind => exact hbehind x hx

/-- Every identifier in a leading text stems from the code before its end, and where no two
identifiers of that are joined by leaving something out it is one of the code. -/
theorem identifiers_of_leadingText (strip : Bool) (t : Text) :
    ∃ a b, t = a ++ b ∧ LabelEnds a b ∧ ∀ w ∈ identifiers (Shape.ofText strip t).leadingText,
      StemsFrom strip ((Literal.codeView t).take a.length) (w.map some) ∧
        (KeepsApart strip ((Literal.codeView t).take a.length) →
          w.map some ∈ shownIdentifiers (Literal.codeView t)) := by
  obtain ⟨a, b, rfl, hends⟩ := exists_labelEnds t
  refine ⟨a, b, rfl, hends, fun w hw => ?_⟩
  obtain ⟨view, after, kept, hlength, hview, hafter, hremains, -, htext⟩ :=
    hends.exists_wording strip
  have htake : (Literal.codeView (a ++ b)).take a.length = view := by
    rw [hview, ← hlength, List.take_left]
  rw [htake]
  rw [htext] at hw
  -- The identifiers of the squeezed text are those of what remains.
  have hkept : w.map some ∈ shownIdentifiers kept := by
    rw [← identifiers_squeezed]
    exact List.mem_map_of_mem hw
  have hstems := hremains.stemsFrom hkept
  refine ⟨hstems, fun hapart => ?_⟩
  have hidentifier : ∀ x ∈ w.map some, x.any isIdentifierChar = true := by
    intro x hx
    simpa using ((Text.of_mem_runs hkept).2 x hx).2
  rw [hview]
  exact shownIdentifiers_append (hstems.mem_shownIdentifiers hidentifier hapart) hafter

/-- Type arguments that stand apart from the next word keep the identifiers as they are. -/
theorem identifiers_of_getter :
    ∀ w ∈ identifiers (Shape.ofText true "Map<K, V> get groups;".toList).leadingText,
      w.map some ∈ shownIdentifiers (Literal.codeView "Map<K, V> get groups;".toList) := by
  obtain ⟨a, b, -, -, h⟩ := identifiers_of_leadingText true "Map<K, V> get groups;".toList
  have hchain : (Literal.codeView "Map<K, V> get groups;".toList).IsChain
      fun x y => y.any isIdentifierChar = true → x ∉ lastsLeftOut := by decide
  exact fun w hw => (h w hw).2 (keepsApart_of_isChain (hchain.take a.length))

/-- Words directly before type arguments that are dropped and directly after them become one word,
and so do words on both sides of an equals sign inside type arguments that are kept. -/
theorem identifiers_adjoin :
    ("Listitems".toList ∈ identifiers (Shape.ofText true "List<int>items;".toList).leadingText ∧
      "Listitems".toList.map some ∉
        shownIdentifiers (Literal.codeView "List<int>items;".toList)) ∧
    "ab".toList ∈ identifiers (Shape.ofText false "T<F(a=b)> x;".toList).leadingText ∧
      "ab".toList.map some ∉ shownIdentifiers (Literal.codeView "T<F(a=b)> x;".toList) := by
  decide

end MemberOutline.Shape
