import MemberOutline.Proofs.Literal.Positions
import MemberOutline.Proofs.Shape.Silence

/-!
# A scan by positions

The step of a scan at a position of a text, with every character read by its position
(`Scan.ByPosition.stride`): besides those that the step through the literals asks for, these are the
character itself, the one after an equals sign, and before a `<` the characters back to the start of
the identifier. Inside the text it finds them all and answers as the stride of the scan
(`Scan.ByPosition.stride_reads`).

`reads_inside` puts this together with the same facts about literals: both loops come through any
text without a read outside it.
-/

namespace MemberOutline.Shape

open Text (charAt slice isIdentifierChar)

namespace Scan

/-! ## Widths -/

/-- A step covers a character. -/
theorem width_stride_pos (s : Scan) (seen : Text) (c : Char) (rest : Text) :
    1 ≤ (stride s seen c rest).1 := by
  rcases hstep : Literal.step s.literals seen.head? c rest with ⟨answer, literals⟩
  cases answer with
  | consumed width =>
    have hrange := Literal.width_step_range s.literals seen.head? c rest
    rw [hstep] at hrange
    rw [width_of_consumed hstep]
    exact hrange.1
  | code =>
    obtain ⟨-, rfl⟩ := Literal.step_eq_code hstep
    have htoken := length_equalsToken rest
    rw [width_of_code hstep]
    split_ifs <;> omega

namespace ByPosition

/-! ## The step by positions -/

/-- The last position of a text whose character has a property, if there is one. -/
def lastPosition? (p : Char → Bool) (t : Text) : Option Nat :=
  (t.reverse.findIdx? p).map fun k => t.length - 1 - k

/-- The position where the identifier at the end of a text starts. -/
def wordStart (t : Text) : Nat := (lastPosition? (fun c => !isIdentifierChar c) t).elim 0 (· + 1)

/-- Whether a `<` at a position opens type arguments. At the start of the text nothing is read. -/
def opensArguments (t : Text) (i : Nat) : Except Nat Bool :=
  if i = 0 then .ok false
  else do
    let before ← charAt t (i - 1)
    if !isIdentifierChar before then return false
    else do
      let front ← slice t 0 i
      let word ← slice t (wordStart front) i
      return word ≠ operatorWord

/-- Whether type arguments open at a position that holds this character. -/
def opensAt (t : Text) (i : Nat) (c : Char) : Except Nat Bool :=
  if c = '<' then opensArguments t i else .ok false

/-- What a scan does with a code character at a position, once the angles are settled. -/
def code (t : Text) (s : Scan) (i : Nat) (c : Char) : Except Nat (Nat × Scan) :=
  if c = '=' then
    let token := equalsToken t[i + 1]?.toList
    .ok (token.length, s.report token)
  else if c = ';' then .ok (1, s.report [';'])
  else
    match Group.ofOpener? c, Group.ofCloser? c with
    | some g, _ => .ok (1, s.openGroup c g)
    | none, some g => .ok (1, s.closeGroup c g)
    | none, none => do
      let opens ← opensAt t i c
      return (1,
        if opens then s.openAngle
        else if c = '>' ∧ s.groups.head? = some .angle then s.closeAngle
        else s.plain c)

/-- The step of a scan at a position. -/
def stride (t : Text) (s : Scan) (i : Nat) : Except Nat (Nat × Scan) := do
  let (answer, literals) ← Literal.ByPosition.step t s.literals i
  match answer with
  | .consumed width => return (width, { s with literals := literals, leading := s.leading.blank })
  | .code => do
    let c ← charAt t i
    code t ({ s with literals := literals }.settle c) i c

/-! ## It reads inside the text -/

/-- From where it starts on, the identifier at the end of a text is what it ends in. -/
theorem drop_wordStart (a : Text) :
    wordStart a ≤ a.length ∧ a.drop (wordStart a) = endingWord a.reverse := by
  have hword : endingWord a.reverse =
      a.drop (a.length - a.reverse.findIdx fun c => !isIdentifierChar c) := by
    rw [endingWord, List.takeWhile_eq_take_findIdx_not, List.reverse_take, List.reverse_reverse,
      List.length_reverse]
  rw [hword]
  unfold wordStart lastPosition?
  cases hfind : a.reverse.findIdx? fun c => !isIdentifierChar c with
  | none =>
    rw [List.findIdx?_eq_none_iff_findIdx_eq, List.length_reverse] at hfind
    rw [hfind]
    exact ⟨Nat.zero_le _, by simp⟩
  | some k =>
    obtain ⟨hk, hfind⟩ := List.findIdx?_eq_some_iff_findIdx_eq.1 hfind
    rw [List.length_reverse] at hk
    rw [hfind]
    have hstart : a.length - 1 - k + 1 = a.length - k := by omega
    simp only [Option.map_some, Option.elim_some, hstart]
    exact ⟨Nat.sub_le _ _, trivial⟩

/-- Type arguments open as they do between two texts. -/
theorem opensArguments_eq (a : Text) (c : Char) (b : Text) :
    opensArguments (a ++ c :: b) a.length = .ok (Shape.opensArguments a.reverse) := by
  unfold opensArguments
  rcases List.eq_nil_or_concat a with rfl | ⟨front, d, rfl⟩
  · rfl
  rw [List.concat_eq_append]
  obtain ⟨hstart, hdrop⟩ := drop_wordStart (front ++ [d])
  have hlength : (front ++ [d]).length ≤ ((front ++ [d]) ++ c :: b).length := by simp
  rw [if_neg (by simp), Text.charAt_before, Text.ok_bind, Text.slice_eq (Nat.zero_le _) hlength,
    List.take_left, List.drop_zero, Text.ok_bind, Text.slice_eq hstart hlength, List.take_left,
    hdrop, Text.ok_bind]
  cases hd : isIdentifierChar d <;>
    simp [Shape.opensArguments, endingWord, hd, pure, Except.pure]

/-- A code character is taken up as it is between two texts. -/
theorem code_eq (a : Text) (s : Scan) (c : Char) (b : Text) :
    code (a ++ c :: b) s a.length c = .ok (s.code a.reverse c b) := by
  have htoken : equalsToken b.head?.toList = equalsToken b := by cases b <;> rfl
  have hopens : opensAt (a ++ c :: b) a.length c =
      .ok (decide (c = '<' ∧ Shape.opensArguments a.reverse = true)) := by
    unfold opensAt
    split_ifs with hc
    · simp [opensArguments_eq, hc]
    · simp [hc]
  unfold code Scan.code
  rw [Text.getElem?_append_succ, htoken, hopens]
  by_cases hequals : c = '='
  · rw [if_pos hequals, if_pos hequals]
  rw [if_neg hequals, if_neg hequals]
  by_cases hsemicolon : c = ';'
  · rw [if_pos hsemicolon, if_pos hsemicolon]
  rw [if_neg hsemicolon, if_neg hsemicolon]
  cases Group.ofOpener? c with
  | some g => rfl
  | none =>
    cases Group.ofCloser? c with
    | some g => rfl
    | none =>
      simp only [Text.ok_bind, decide_eq_true_eq, pure, Except.pure]
      split_ifs <;> rfl

/-- Inside a text the step does not fail, and it is the stride of the scan. -/
theorem stride_reads : Text.ReadsAs stride Scan.stride := by
  intro a s c b
  unfold stride Scan.stride
  rw [Literal.ByPosition.step_eq, Text.ok_bind, List.head?_reverse]
  rcases Literal.step s.literals a.getLast? c b with ⟨answer, literals⟩
  cases answer with
  | consumed width => rfl
  | code =>
    simp only
    rw [Text.charAt_append, Text.ok_bind, code_eq]

/-- A scan is a loop that reads inside the text. -/
theorem exists_run (t : Text) :
    ∃ last, Text.Run id stride t .start 0 (Text.stops id Scan.stride .start 0 0 [] t) (ofText t)
        last ∧
      ((Text.stops id Scan.stride .start 0 0 [] t).map (·.position)).Pairwise (· < ·) ∧
      Literal.EndsWithin t (ofText t).literals last := by
  obtain ⟨last, hrun, hlast⟩ := Text.exists_run id
    (fun c (s : Scan) => Literal.EscapesIn c s.literals) stride_reads
    width_stride_le_or_escape_at_end width_stride_pos [] t .start
  exact ⟨last, hrun, hrun.increasing stride_reads width_stride_pos, hlast⟩

end ByPosition

end Scan

/-- Both loops, the one through the literals of a text and the scan, come through the text without a
read outside it: their steps are those of the walks, their positions increase, and they end at the
end of the text or one position after it, the latter only at an escape that the text breaks off.
And whatever is open at whatever position, a step through the literals finds what it reads, covers
one to four characters of a literal, and answers that it found code only with nothing open before
and after. -/
theorem reads_inside (t : Text) :
    (∃ last, Text.Run Literal.Step.width Literal.ByPosition.step t [] 0 (Literal.visits t)
        (Text.walk Literal.Step.width Literal.stride [] 0 [] t) last ∧
      ((Literal.visits t).map (·.position)).Pairwise (· < ·) ∧
      Literal.EndsWithin t (Text.walk Literal.Step.width Literal.stride [] 0 [] t) last) ∧
    (∃ last, Text.Run id Scan.ByPosition.stride t .start 0
        (Text.stops id Scan.stride .start 0 0 [] t) (Scan.ofText t) last ∧
      ((Text.stops id Scan.stride .start 0 0 [] t).map (·.position)).Pairwise (· < ·) ∧
      Literal.EndsWithin t (Scan.ofText t).literals last) ∧
    ∀ stack i, i < t.length → ∃ answer next,
      Literal.ByPosition.step t stack i = .ok (answer, next) ∧
      (∀ n, answer = .consumed n → 1 ≤ n ∧ n ≤ 4) ∧
      (answer = .code → stack = [] ∧ next = []) := by
  refine ⟨Literal.ByPosition.exists_run t, Scan.ByPosition.exists_run t, fun stack i inside => ?_⟩
  have hreads := Literal.ByPosition.step_reads.at_position stack inside
  have hrange := Literal.width_step_range stack (t.take i).reverse.head? t[i] (t.drop (i + 1))
  rcases hstep : Literal.stride stack (t.take i).reverse t[i] (t.drop (i + 1)) with ⟨answer, next⟩
  rw [Literal.stride] at hstep
  rw [hstep] at hrange
  refine ⟨answer, next, hreads.trans (congrArg Except.ok hstep), fun n hn => ?_, fun hcode => ?_⟩
  · rw [hn] at hrange
    exact hrange
  · rw [hcode] at hstep
    exact Literal.step_eq_code hstep

end MemberOutline.Shape
