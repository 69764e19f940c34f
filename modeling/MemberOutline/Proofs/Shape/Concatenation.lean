import MemberOutline.Proofs.Literal.Decided
import MemberOutline.Proofs.Shape.Pairing
import MemberOutline.Proofs.Shape.Silence
import MemberOutline.Proofs.Shape.Truncation

/-!
# Texts one after the other

A text that is complete and ends in a semicolon, a closing bracket or a blank can be scanned by
itself: what follows it adds its own sequence to the one of the text, and nothing to a leading text
that has ended (`sequence_append`).

At the cut nothing is left over. No step before it can see what follows, since the last character is
none at which a step looks ahead (`ofText_append`). No step after it can see what came before, since
the last character belongs to no identifier. And with no group open nothing is withheld, so that the
scan goes on as from the start but for the tokens and the leading text, which no step reads.
-/

namespace MemberOutline.Shape

open Text (anyStep isBlank isIdentifierChar)

/-- Whether a text may be cut after a character: a semicolon, a closing bracket or a blank. -/
def endsPart (c : Char) : Bool := [';', ')', ']', '}', '>'].contains c || isBlank c

/-- At a character after which a text may be cut no step asks for the next one, and it belongs to no
identifier. -/
theorem of_endsPart {c : Char} (h : endsPart c = true) :
    c ∉ Literal.asking ∧ isIdentifierChar c = false := by
  rcases Bool.or_eq_true_iff.1 h with hsign | hblank
  · have hall : [';', ')', ']', '}', '>'].all
        (fun c => c ∉ Literal.asking ∧ isIdentifierChar c = false) = true := by decide
    exact of_decide_eq_true (List.all_eq_true.1 hall c (List.contains_iff_mem.1 hsign))
  · refine ⟨?_, not_isIdentifierChar_of_isBlank hblank⟩
    exact of_isBlank (P := fun c => c ∉ Literal.asking) (by decide) hblank

/-- Tokens that follow given ones go on to do so. -/
theorem TokensKept.after (tokens : Text) :
    TokensKept fun p q => p = (tokens ++ q.1, q.2) where
  report := by
    rintro a v b w token h
    cases h
    rw [List.append_assoc]
  withhold := by
    rintro a v b w token h
    cases h
    rfl
  flush := by
    rintro a v b w h
    cases h
    rw [List.append_assoc]
  forget := by
    rintro a v b w h
    cases h
    rfl

namespace Scan

variable {s t : Scan} {seen way within : Text} {c : Char}

/-- A step in a decided text is the same whatever follows. -/
theorem stride_append_of_decided (hdecided : Literal.Decided (c :: within)) (rest : Text) :
    stride s seen c (within ++ rest) = stride s seen c within := by
  have htoken : c = '=' → equalsToken (within ++ rest) = equalsToken within := by
    intro hc
    have hne := hdecided.ne_nil (hc ▸ by decide)
    simp only [equalsToken, Literal.head?_append_of_ne_nil hne rest]
  unfold stride
  rw [Literal.step_append_of_decided s.literals seen.head? hdecided rest]
  rcases Literal.step s.literals seen.head? c within with ⟨answer, literals⟩
  cases answer with
  | consumed width => rfl
  | code =>
    simp only [code]
    by_cases hc : c = '='
    · rw [if_pos hc, if_pos hc, htoken hc]
    · rw [if_neg hc, if_neg hc]

/-- A path through a decided text that ends outside all literals is the same whatever follows. -/
theorem path_append_of_decided (h : Text.Path id stride anyStep s seen way [] t)
    (hout : t.literals = []) (hdecided : Literal.Decided way) (rest : Text) :
    Text.Path id stride anyStep s seen way rest t := by
  refine h.before_rest_of_end (fun t => t.literals = []) hout ?_ ?_
  · exact fun s seen c more hlast => width_stride_le hlast
  · intro s seen c within hpart _
    exact stride_append_of_decided (hdecided.of_suffix hpart (List.cons_ne_nil c within)) rest

/-- Past a text that ends outside all literals in a semicolon, a closing bracket or a blank, a scan
goes on as if nothing came before. -/
theorem ofText_append {p : Text} (hlast : ∀ c ∈ p.getLast?, endsPart c = true)
    (hout : (ofText p).literals = []) (q : Text) :
    ofText (p ++ q) = Text.walk id stride (ofText p) 0 [] q := by
  have hdecided : Literal.Decided p := fun c hc => (of_endsPart (hlast c hc)).1
  have hpath := path_append_of_decided (Text.path_walk start [] p) hout hdecided q
  have hseen : p.reverse.head?.any isIdentifierChar = false := by
    rw [List.head?_reverse]
    cases hend : p.getLast? with
    | none => rfl
    | some c => exact (of_endsPart (hlast c hend)).2
  calc ofText (p ++ q)
      = Text.walk id stride (ofText p) 0 (p.reverse ++ []) q := hpath.walk_eq
    _ = Text.walk id stride (ofText p) 0 [] q := by
        rw [List.append_nil]
        exact walk_of_seen (ofText p) 0 q (takeWhile_of_head? hseen)

end Scan

/-- After a complete text that ends in a semicolon, a closing bracket or a blank, any text adds the
sequence that it has by itself, and it adds nothing to a leading text that has ended. -/
theorem sequence_append (p : Text) (hlast : ∀ c ∈ p.getLast?, endsPart c = true)
    (hcomplete : (Scan.ofText p).isComplete = true) (q : Text) (strip : Bool) :
    (Shape.ofText strip (p ++ q)).sequence =
        (Shape.ofText strip p).sequence ++ (Shape.ofText strip q).sequence ∧
      ∀ collected, (Scan.ofText p).leading = .ended collected →
        (Shape.ofText strip (p ++ q)).leadingText = (Shape.ofText strip p).leadingText := by
  obtain ⟨hgroups, hout⟩ : (Scan.ofText p).groups = [] ∧ (Scan.ofText p).literals = [] := by
    simpa [Scan.isComplete] using hcomplete
  have hwithheld : (Scan.ofText p).withheld = [] :=
    (Scan.paired_ofText p).withheld_eq_nil (by simp [hgroups])
  have hrest := Scan.ofText_append hlast hout q
  constructor
  · -- The rest goes side by side with a scan that starts there.
    have hstart : (Scan.ofText p).Parallel
        (fun a b => a = ((Scan.ofText p).tokens ++ b.1, b.2)) (fun _ _ => True) .start := by
      refine ⟨hout, hgroups, ?_, trivial⟩
      rw [hwithheld, Scan.start, List.append_nil]
    have hwalk := hstart.walk (.after _) .any 0 [] q
    rw [← hrest] at hwalk
    have hsequence : (Shape.ofText strip p).sequence = (Scan.ofText p).tokens := by
      simp [Shape.ofText, Scan.shape, hgroups, Scan.onlyAngles]
    rw [hsequence]
    exact congrArg Prod.fst (hwalk.sequence (.after _) strip)
  · intro collected hended
    have hwalk := Scan.Parallel.walk .eq (.ended collected)
      (⟨rfl, rfl, rfl, hended⟩ : (Scan.ofText p).Parallel Eq (fun l _ => l = .ended collected) _)
      0 [] q
    rw [← hrest] at hwalk
    simp only [Shape.ofText, Scan.shape, hwalk.leading, hended]

/-- A getter with a comment after it. -/
def getterAndComment : Text := "List<int> get a => [1]; // a;\n".toList

/-- A method after a getter and a comment adds its own tokens, and the label remains that of the
getter. -/
theorem sequence_append_getterAndComment :
    (∀ c ∈ getterAndComment.getLast?, endsPart c = true) ∧
      (Scan.ofText getterAndComment).isComplete = true ∧
      (∀ strip, (Shape.ofText strip (getterAndComment ++ "<T>(x) \x7b \x7d".toList)).sequence =
        (Shape.ofText strip getterAndComment).sequence ++ "()\x7b\x7d".toList) ∧
      (Shape.ofText true (getterAndComment ++ "<T>(x) \x7b \x7d".toList)).leadingText =
        "List get a".toList := by
  have hlast : ∀ c ∈ getterAndComment.getLast?, endsPart c = true := by
    have hend : getterAndComment.getLast? = some '\n' := by decide
    intro c hc
    obtain rfl : '\n' = c := by
      rw [hend] at hc
      exact Option.some.inj hc
    decide
  have hcomplete : (Scan.ofText getterAndComment).isComplete = true := by decide
  have hended : (Scan.ofText getterAndComment).leading =
      .ended ⟨[("List".toList, "<int>".toList)], " get a".toList⟩ := by decide
  have happend := sequence_append getterAndComment hlast hcomplete "<T>(x) \x7b \x7d".toList
  refine ⟨hlast, hcomplete, fun strip => ?_, ?_⟩
  · rw [(happend strip).1]
    have hsequence : (Shape.ofText strip "<T>(x) \x7b \x7d".toList).sequence =
        "()\x7b\x7d".toList := by
      cases strip <;> decide
    rw [hsequence]
  · have hlabel : (Shape.ofText true getterAndComment).leadingText = "List get a".toList := by
      rw [Shape.ofText, Scan.shape, hended]
      rfl
    have hkept := (happend true).2 _ hended
    rw [hkept, hlabel]

end MemberOutline.Shape
