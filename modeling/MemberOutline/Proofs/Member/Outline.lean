import MemberOutline.Member.Classify
import MemberOutline.Proofs.Shape.Blanked
import MemberOutline.Proofs.Shape.GroupBody

/-!
# What an outline does not show

A member is classified by the shape of its declaration; only the name of an operator is looked up in
the declaration itself (`kindAndName_cases`). So what is of no influence on the shape is of none on
the member, the name and the label of an operator apart: what stands inside a group at depth zero
(`outline_of_groups`), and what a literal contains (`outline_of_blanked`).
-/

namespace MemberOutline.Member

/-- Members that an outline shows alike: they may differ in the name and the label of an
operator. -/
structure Alike (m n : Member) : Prop where
  kind : m.kind = n.kind
  modifiers : m.modifiers = n.modifiers
  isStatic : m.isStatic = n.isStatic
  hasBody : m.hasBody = n.hasBody
  shape : m.shape = n.shape
  name : m.kind ≠ .operator → m.name = n.name
  label : m.kind ≠ .operator → m.label = n.label

/-! ## Of one shape -/

/-- A declaration of a given shape is an operator, named in the declaration, or its kind and name
follow from the shape. -/
theorem kindAndName_cases (shape : Shape) (modifiers : List Text) (className : Option Text) :
    (∀ d, kindAndName d shape modifiers className = (.operator, operatorName d)) ∨
      ∃ kind name, kind ≠ .operator ∧
        ∀ d, kindAndName d shape modifiers className = (kind, name) := by
  unfold kindAndName
  simp only
  split_ifs with hoperator
  · exact .inl fun _ => rfl
  all_goals right
  all_goals split
  all_goals exact ⟨_, _, by decide, fun _ => rfl⟩

/-- The member of an operator, whatever its declaration: only the name and the label vary. -/
theorem ofShape_of_operator {shape : Shape} {className : Option Text}
    (h : ∀ d, kindAndName d shape ((Text.words shape.leadingText).takeWhile modifierWords.contains)
      className = (.operator, operatorName d)) (d : Text) :
    ofShape d shape className =
      { ofShape [] shape className with
        kind := .operator
        name := operatorName d
        label := operatorName d ++ "()".toList } := by
  simp only [ofShape, h, labelOf]

/-- Two declarations of one shape are the same member, unless they are operators that are named
differently. -/
theorem ofShape_eq_iff (d d' : Text) (shape : Shape) (className : Option Text) :
    ofShape d shape className = ofShape d' shape className ↔
      ((ofShape d shape className).kind = .operator → operatorName d = operatorName d') := by
  rcases kindAndName_cases shape _ className with h | ⟨kind, name, hkind, h⟩
  · rw [ofShape_of_operator h d, ofShape_of_operator h d']
    refine ⟨fun hmember _ => congrArg name hmember, fun hname => ?_⟩
    rw [hname rfl]
  · have hsame : ofShape d shape className = ofShape d' shape className := by
      simp only [ofShape, h]
    have hother : (ofShape d shape className).kind ≠ .operator := by
      simp only [ofShape, h]
      exact hkind
    exact ⟨fun _ hoperator => absurd hoperator hother, fun _ => hsame⟩

/-- Two declarations of one shape are shown alike. -/
theorem alike_of_shape (d d' : Text) (shape : Shape) (className : Option Text) :
    Alike (ofShape d shape className) (ofShape d' shape className) := by
  rcases kindAndName_cases shape _ className with h | ⟨kind, name, -, h⟩
  · rw [ofShape_of_operator h d, ofShape_of_operator h d']
    exact ⟨rfl, rfl, rfl, rfl, rfl, fun hnot => absurd rfl hnot, fun hnot => absurd rfl hnot⟩
  · have hsame : ofShape d shape className = ofShape d' shape className := by
      simp only [ofShape, h]
    rw [hsame]
    exact ⟨rfl, rfl, rfl, rfl, rfl, fun _ => rfl, fun _ => rfl⟩

/-! ## Groups and literals -/

/-- What stands between an opener at depth zero and its closer is of no influence on the shape of a
declaration, nor on anything that the outline shows but the name of an operator. -/
theorem outline_of_groups {a x y b : Text} {o c : Char} (hx : Shape.GroupCloses a o x c b)
    (hy : Shape.GroupCloses a o y c b) (strip : Bool) (className : Option Text) :
    Shape.ofText strip (a ++ o :: (x ++ c :: b)) = Shape.ofText strip (a ++ o :: (y ++ c :: b)) ∧
      Alike (ofText strip (a ++ o :: (x ++ c :: b)) className)
        (ofText strip (a ++ o :: (y ++ c :: b)) className) := by
  have hshape := hx.shape_eq hy strip
  refine ⟨hshape, ?_⟩
  rw [ofText, ofText, hshape]
  exact alike_of_shape _ _ _ className

/-- Parameters with type arguments, a comparison and a closer in a string, and then others with a
stray closer and an opener in a comment. -/
theorem outline_of_groups_parameters :
    Shape.GroupCloses "static void f".toList '(' "[List<int> a = b < \x27)\x27]".toList ')'
        " async \x7b \x7d".toList ∧
      Shape.GroupCloses "static void f".toList '(' "x] \x7d /* ( */ < y".toList ')'
        " async \x7b \x7d".toList ∧
      Alike
        (ofText true ("static void f".toList ++
          '(' :: ("[List<int> a = b < \x27)\x27]".toList ++ ')' :: " async \x7b \x7d".toList)) none)
        (ofText true ("static void f".toList ++
          '(' :: ("x] \x7d /* ( */ < y".toList ++ ')' :: " async \x7b \x7d".toList)) none) := by
  have hfirst : Shape.GroupCloses "static void f".toList '(' "[List<int> a = b < \x27)\x27]".toList
      ')' " async \x7b \x7d".toList := .of_finds (g := .round) (by decide)
  have hsecond : Shape.GroupCloses "static void f".toList '(' "x] \x7d /* ( */ < y".toList ')'
      " async \x7b \x7d".toList := .of_finds (g := .round) (by decide)
  exact ⟨hfirst, hsecond, (outline_of_groups hfirst hsecond true none).2⟩

/-- A declaration and the one with a space in place of each of its literals are shown alike, and
they are the same member unless they are operators that are named differently. -/
theorem outline_of_blanked (strip : Bool) (t : Text) (className : Option Text) :
    Alike (ofText strip (Literal.blanked t) className) (ofText strip t className) ∧
      (ofText strip (Literal.blanked t) className = ofText strip t className ↔
        ((ofText strip t className).kind = .operator →
          operatorName (Literal.blanked t) = operatorName t)) := by
  rw [ofText, ofText, Shape.shape_blanked]
  refine ⟨alike_of_shape _ _ _ className, ?_⟩
  rw [eq_comm, ofShape_eq_iff, eq_comm (a := operatorName t)]

/-- An operator with another one in a comment before it. -/
def commentedOperator : Text := "/* operator + */ bool operator ==(Object o) => true;".toList

/-- The name of an operator with another one in a comment before it is the one in the comment. -/
theorem name_of_commentedOperator :
    (ofText true commentedOperator none).name = "operator +".toList ∧
      (ofText true (Literal.blanked commentedOperator) none).name = "operator ==".toList := by
  decide

end MemberOutline.Member
