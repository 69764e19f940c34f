import MemberOutline.Proofs.Shape.Recognition
import MemberOutline.Proofs.Shape.Squeezed
import MemberOutline.Proofs.Shape.Truncation

/-!
# Text that is shown as it stands

Outside all groups and literals most characters stand for themselves: the leading text takes them up
or, at a blank, leaves a gap. So a text of such characters (`Plain`) before a boundary has its words
as its leading text, with single spaces between them (`Plain.leadingText_eq`).
-/

namespace MemberOutline.Shape

open Text (anyStep isBlank isIdentifierChar)

/-- The characters that are tokens, brackets or quotes wherever code stands. -/
def markChars : List Char := ['=', ';', '(', ')', '[', ']', '{', '}', '\x27', '\x22']

/-- All characters of a text stand for themselves before a rest: none is a mark, no slash begins a
comment, and no `<` opens type arguments. -/
structure Plain (t rest : Text) : Prop where
  /-- No character is a mark. -/
  unmarked : ∀ c ∈ t, c ∉ markChars
  /-- No slash begins a comment. -/
  slash : ∀ a b, t = a ++ '/' :: b → ∀ d ∈ (b ++ rest).head?, d ≠ '/' ∧ d ≠ '*'
  /-- No `<` opens type arguments. -/
  angle : ∀ a b, t = a ++ '<' :: b → opensArguments a.reverse = false
  /-- No raw string begins at the end. -/
  quoteless : Quoteless rest

/-- The leading text once a text that stands for itself is read. -/
def LeadingText.plain (t : Text) : LeadingText :=
  .outside ⟨[], squeezed (t.map some)⟩ ((t.map some).getLast?.any separates)

/-- The leading text of a text that stands for itself goes on with a blank. -/
theorem LeadingText.plain_blank {c : Char} (hc : isBlank c = true) (t : Text) :
    (LeadingText.plain t).blank = .plain (t ++ [c]) := by
  have hseparates : ∀ x ∈ [some c], separates x = true := by simpa [separates] using hc
  unfold LeadingText.plain
  rw [List.map_append, List.map_singleton, squeezed_append_separators hseparates,
    List.getLast?_concat]
  exact congrArg (LeadingText.outside _) hc.symm

/-- The leading text of a text that stands for itself goes on with a character that is no blank. -/
theorem LeadingText.plain_add {c : Char} (hc : isBlank c = false) (t : Text) :
    (LeadingText.plain t).add c = .plain (t ++ [c]) := by
  have hempty : (⟨[], squeezed (t.map some)⟩ : Collected) ≠ .empty ↔
      squeezed (t.map some) ≠ [] := by
    simp [Collected.empty]
  unfold LeadingText.plain
  rw [List.map_append, List.map_singleton, squeezed_append_some _ hc, List.getLast?_concat]
  simp only [LeadingText.add, hempty]
  exact congrArg (LeadingText.outside _) hc.symm

namespace Scan

variable {s t : Scan} {a b seen rest : Text} {c : Char}

/-- The scan that has read a text of characters that stand for themselves. -/
def afterPlain (t : Text) : Scan := { start with leading := .plain t }

/-- A scan that has read characters that stand for themselves reads one more of them. -/
theorem stride_afterPlain (hmark : c ∉ markChars)
    (code : Literal.step [] seen.head? c rest = (.code, []))
    (hangle : c = '<' → opensArguments seen = false) (t : Text) :
    stride (afterPlain t) seen c rest = (1, afterPlain (t ++ [c])) := by
  have hnone : Group.ofOpener? c = none ∧ Group.ofCloser? c = none ∧ c ≠ '=' ∧ c ≠ ';' := by
    simp only [markChars, List.mem_cons, not_or] at hmark
    simp [Group.ofOpener?, Group.ofCloser?, hmark]
  obtain ⟨hopener, hcloser, hequals, hsemicolon⟩ := hnone
  have hsettle : (afterPlain t).settle c = afterPlain t := rfl
  have hplain : (afterPlain t).plain c = afterPlain (t ++ [c]) := by
    unfold Scan.plain
    split_ifs with hblank
    · exact congrArg (Scan.mk [] [] [] []) (LeadingText.plain_blank hblank t)
    · exact congrArg (Scan.mk [] [] [] []) (LeadingText.plain_add (Bool.eq_false_iff.2 hblank) t)
  rw [stride_of_code code, hsettle, ← hplain]
  unfold Scan.code
  rw [if_neg hequals, if_neg hsemicolon, hopener, hcloser]
  simp only
  rw [if_neg fun h => Bool.eq_false_iff.1 (hangle h.1) h.2, if_neg fun h => by cases h.2]

end Scan

namespace Plain

variable {t a b rest : Text} {c : Char}

/-- A character of a text that stands for itself is code. -/
theorem code (h : Plain t rest) (ht : t = a ++ c :: b) :
    Literal.step [] a.reverse.head? c (b ++ rest) = (.code, []) := by
  have hquote {d : Char} (hd : d ∉ markChars) : d ∉ ['\x27', '\x22'] := by
    simp only [markChars, List.mem_cons, not_or] at hd
    simp [hd]
  refine Scan.step_of_quoteless (hquote (h.unmarked c (by simp [ht]))) ?_ ?_
  · rintro rfl
    exact h.slash a b ht
  · intro d hd
    cases b with
    | nil => exact h.quoteless d hd
    | cons e b =>
      obtain rfl := Option.some.inj hd
      exact hquote (h.unmarked e (by simp [ht]))

/-- A scan reads all of a text that stands for itself. -/
theorem path (h : Plain t rest) :
    Text.Path id Scan.stride anyStep .start [] t rest (Scan.afterPlain t) := by
  -- The induction is on what is left to read.
  suffices hall : ∀ b a, t = a ++ b → Text.Path id Scan.stride anyStep (Scan.afterPlain a) a.reverse
      b rest (Scan.afterPlain t) from hall t [] rfl
  intro b
  induction b with
  | nil =>
    rintro a ht
    rw [ht, List.append_nil]
    exact .stay
  | cons c b ih =>
    intro a ht
    have hangle : c = '<' → opensArguments a.reverse = false := by
      rintro rfl
      exact h.angle a b ht
    have hnext := ih (a ++ [c]) (by rw [ht]; simp)
    rw [List.reverse_append] at hnext
    exact .cons_one trivial
      (Scan.stride_afterPlain (h.unmarked c (by simp [ht])) (h.code ht) hangle a) rfl hnext

/-- A text that stands for itself before a boundary is shown as its words, with single spaces
between them. -/
theorem leadingText_eq (h : Plain t (c :: b)) (hc : [c] ∈ boundaries) (strip : Bool) :
    (Shape.ofText strip (t ++ c :: b)).leadingText = squeezed (t.map some) := by
  have hdepth : ((Scan.afterPlain t).settle c).groups = [] := rfl
  obtain ⟨htokens, hended⟩ := Scan.stride_boundary t.reverse b rfl hc hdepth
  have hafter := Scan.parallel_after_boundary
    ((Scan.stride (Scan.afterPlain t) t.reverse c b).1 - 1) (c :: t.reverse) b htokens hended
  have hwhole : Scan.ofText (t ++ c :: b) = Text.walk id Scan.stride
      (Scan.stride (Scan.afterPlain t) t.reverse c b).2
      ((Scan.stride (Scan.afterPlain t) t.reverse c b).1 - 1) (c :: t.reverse) b := by
    rw [Scan.ofText, h.path.walk_eq, List.append_nil]
    rfl
  rw [← hwhole] at hafter
  rw [Shape.ofText, Scan.shape, hafter.leading]
  rfl

/-- The words of the leading text are those of a text that stands for itself before a boundary. -/
theorem words_leadingText (h : Plain t (c :: b)) (hc : [c] ∈ boundaries) (strip : Bool) :
    Text.words (Shape.ofText strip (t ++ c :: b)).leadingText = Text.words t := by
  rw [h.leadingText_eq hc, words_squeezed, shownWords_map_some]

end Plain

end MemberOutline.Shape
