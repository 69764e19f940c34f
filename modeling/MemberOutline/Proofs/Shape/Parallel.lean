import MemberOutline.Proofs.Shape.Move

/-!
# Two scans side by side

What a step does is decided by the literals and the groups that are open. The tokens and the leading
text are only written: no step reads them. So two scans with the same literals and groups take the
same steps through a text, and a relation between their tokens, or between their leading texts,
holds in the end if it is kept by each of the few things that a step can do to them.

`Parallel` is such a pair of scans, `TokensKept` and `LeadingKept` list what the relations must
keep, and `Parallel.walk` and `Parallel.sequence` are the main statements.
-/

namespace MemberOutline.Shape

/-- Tokens reported, and tokens withheld. -/
abbrev Tokens := Text × Text

/-- A relation between the tokens of two scans that is kept by all that a step does to both. -/
structure TokensKept (T : Tokens → Tokens → Prop) : Prop where
  /-- Both report a token. -/
  report : ∀ {a v b w : Text} (token : Text), T (a, v) (b, w) → T (a ++ token, v) (b ++ token, w)
  /-- Both withhold a token. -/
  withhold : ∀ {a v b w : Text} (token : Text), T (a, v) (b, w) → T (a, v ++ token) (b, w ++ token)
  /-- Both report what they withheld. -/
  flush : ∀ {a v b w : Text}, T (a, v) (b, w) → T (a ++ v, []) (b ++ w, [])
  /-- Both forget what they withheld. -/
  forget : ∀ {a v b w : Text}, T (a, v) (b, w) → T (a, []) (b, [])

/-- A relation between the leading texts of two scans that is kept by all that a step does to
both. -/
structure LeadingKept (L : LeadingText → LeadingText → Prop) : Prop where
  /-- Both take up a character. -/
  add : ∀ {l m : LeadingText} (c : Char), L l m → L (l.add c) (m.add c)
  /-- Both note a blank. -/
  blank : ∀ {l m : LeadingText}, L l m → L l.blank m.blank
  /-- Both begin type arguments. -/
  enter : ∀ {l m : LeadingText}, L l m → L l.enter m.enter
  /-- Both complete type arguments. -/
  leave : ∀ {l m : LeadingText}, L l m → L l.leave m.leave
  /-- Both put type arguments back into the text. -/
  giveUp : ∀ {l m : LeadingText}, L l m → L l.giveUp m.giveUp
  /-- Both end the text. -/
  finish : ∀ {l m : LeadingText}, L l m → L l.finish m.finish

/-- The same tokens stay the same. -/
theorem TokensKept.eq : TokensKept Eq where
  report := by
    rintro a v b w token h
    cases h
    rfl
  withhold := by
    rintro a v b w token h
    cases h
    rfl
  flush := by
    rintro a v b w h
    cases h
    rfl
  forget := by
    rintro a v b w h
    cases h
    rfl

/-- Tokens stay related when both scans withhold a token, or neither does. -/
theorem TokensKept.withholdIf {T : Tokens → Tokens → Prop} (hT : TokensKept T) {a v b w : Text}
    (h : T (a, v) (b, w)) (c : Char) (withheld : Bool) :
    T (a, if withheld then v ++ [c] else v) (b, if withheld then w ++ [c] else w) := by
  split_ifs
  · exact hT.withhold [c] h
  · exact h

/-- Whatever leading texts two scans have, nothing is asked of them. -/
theorem LeadingKept.any : LeadingKept fun _ _ => True where
  add := fun _ _ => trivial
  blank := fun _ => trivial
  enter := fun _ => trivial
  leave := fun _ => trivial
  giveUp := fun _ => trivial
  finish := fun _ => trivial

/-- Leading texts that a map makes the same stay so, if it makes no difference to what is done after
it. -/
theorem LeadingKept.of_map (f : LeadingText → LeadingText)
    (add : ∀ (l : LeadingText) (c : Char), f ((f l).add c) = f (l.add c))
    (blank : ∀ l : LeadingText, f (f l).blank = f l.blank)
    (enter : ∀ l : LeadingText, f (f l).enter = f l.enter)
    (leave : ∀ l : LeadingText, f (f l).leave = f l.leave)
    (giveUp : ∀ l : LeadingText, f (f l).giveUp = f l.giveUp)
    (finish : ∀ l : LeadingText, f (f l).finish = f l.finish) :
    LeadingKept fun l m => f l = f m where
  add := fun {l m} c h => by rw [← add l, h, add m]
  blank := fun {l m} h => by rw [← blank l, h, blank m]
  enter := fun {l m} h => by rw [← enter l, h, enter m]
  leave := fun {l m} h => by rw [← leave l, h, leave m]
  giveUp := fun {l m} h => by rw [← giveUp l, h, giveUp m]
  finish := fun {l m} h => by rw [← finish l, h, finish m]

namespace Scan

/-- Two scans with the same literals and groups open, and with their tokens and leading texts
related. -/
structure Parallel (T : Tokens → Tokens → Prop) (L : LeadingText → LeadingText → Prop)
    (s t : Scan) : Prop where
  /-- The same literals are open. -/
  literals : s.literals = t.literals
  /-- The same groups are open. -/
  groups : s.groups = t.groups
  /-- The tokens are related. -/
  tokens : T (s.tokens, s.withheld) (t.tokens, t.withheld)
  /-- The leading texts are related. -/
  leading : L s.leading t.leading

namespace Parallel

variable {T : Tokens → Tokens → Prop} {L : LeadingText → LeadingText → Prop} {s t : Scan}
  (hT : TokensKept T) (hL : LeadingKept L)

include hT hL

/-! ## The parts of a step -/

/-- Scans side by side remain so when both give up angles. -/
theorem giveUpAngles (h : s.Parallel T L t) : s.giveUpAngles.Parallel T L t.giveUpAngles := by
  by_cases hdrop : s.groups.dropWhile (· = .angle) = []
  · rw [giveUpAngles_of_all_angles hdrop, giveUpAngles_of_all_angles (by rw [← h.groups, hdrop])]
    exact ⟨h.literals, rfl, hT.flush h.tokens, hL.giveUp h.leading⟩
  · rw [giveUpAngles_of_other hdrop, giveUpAngles_of_other (by rw [← h.groups]; exact hdrop)]
    exact ⟨h.literals, by rw [h.groups], h.tokens, h.leading⟩

/-- Scans side by side remain so when both settle the angles. -/
theorem settle (h : s.Parallel T L t) (c : Char) : (s.settle c).Parallel T L (t.settle c) := by
  unfold Scan.settle
  rw [← h.groups]
  split_ifs
  · exact h.giveUpAngles hT hL
  · exact h

/-- Scans side by side remain so when both report a token. -/
theorem report (h : s.Parallel T L t) (token : Text) :
    (s.report token).Parallel T L (t.report token) := by
  unfold Scan.report
  rw [← h.groups]
  split_ifs
  · exact ⟨h.literals, rfl, hT.report token h.tokens, hL.finish h.leading⟩
  · exact h

/-- Scans side by side remain so when both open a group. -/
theorem openGroup (h : s.Parallel T L t) (c : Char) (g : Group) :
    (s.openGroup c g).Parallel T L (t.openGroup c g) := by
  by_cases hnil : s.groups = []
  · rw [openGroup_of_nil hnil, openGroup_of_nil (by rw [← h.groups, hnil])]
    exact ⟨h.literals, rfl, hT.report [c] h.tokens, hL.finish h.leading⟩
  · rw [openGroup_of_ne_nil hnil, openGroup_of_ne_nil (by rw [← h.groups]; exact hnil), ← h.groups]
    exact ⟨h.literals, rfl, hT.withholdIf h.tokens c _, hL.add c h.leading⟩

omit hL in
/-- Scans side by side remain so when both close the innermost group. -/
theorem closeInnermost (h : s.Parallel T L t) (c : Char) :
    (s.closeInnermost c).Parallel T L (t.closeInnermost c) := by
  by_cases hnil : s.groups.tail = []
  · rw [closeInnermost_of_nil hnil, closeInnermost_of_nil (by rw [← h.groups, hnil])]
    exact ⟨h.literals, rfl, hT.report [c] h.tokens, h.leading⟩
  · rw [closeInnermost_of_ne_nil hnil,
      closeInnermost_of_ne_nil (by rw [← h.groups]; exact hnil), ← h.groups]
    exact ⟨h.literals, rfl, hT.withholdIf h.tokens c _, h.leading⟩

/-- Scans side by side both close a group at a closer, or both pass over it. -/
theorem closeGroup (h : s.Parallel T L t) (c : Char) (g : Group) :
    (s.closeGroup c g).Parallel T L (t.closeGroup c g) := by
  have hgiven := h.giveUpAngles hT hL
  unfold Scan.closeGroup
  simp only
  rw [← hgiven.groups]
  split_ifs
  · have hclosed := hgiven.closeInnermost hT c
    exact ⟨hclosed.literals, hclosed.groups, hclosed.tokens, hL.add c hclosed.leading⟩
  · exact ⟨hgiven.literals, hgiven.groups, hgiven.tokens, hL.add c hgiven.leading⟩

omit hT in
/-- Scans side by side remain so when both open type arguments. -/
theorem openAngle (h : s.Parallel T L t) : s.openAngle.Parallel T L t.openAngle := by
  unfold Scan.openAngle
  rw [← h.groups]
  refine ⟨h.literals, rfl, h.tokens, ?_⟩
  simp only
  split_ifs
  · exact hL.enter h.leading
  · exact hL.add '<' h.leading

/-- Scans side by side remain so when both close type arguments. -/
theorem closeAngle (h : s.Parallel T L t) : s.closeAngle.Parallel T L t.closeAngle := by
  by_cases hnil : s.groups.tail = []
  · rw [closeAngle_of_nil hnil, closeAngle_of_nil (by rw [← h.groups, hnil])]
    exact ⟨h.literals, rfl, hT.forget h.tokens, hL.leave h.leading⟩
  · rw [closeAngle_of_ne_nil hnil, closeAngle_of_ne_nil (by rw [← h.groups]; exact hnil),
      ← h.groups]
    exact ⟨h.literals, rfl, h.tokens, hL.add '>' h.leading⟩

omit hT in
/-- Scans side by side remain so when both take up a character. -/
theorem plain (h : s.Parallel T L t) (c : Char) : (s.plain c).Parallel T L (t.plain c) := by
  refine ⟨h.literals, h.groups, h.tokens, ?_⟩
  unfold Scan.plain
  simp only
  split_ifs
  · exact hL.blank h.leading
  · exact hL.add c h.leading

/-! ## A step and a walk -/

/-- Scans side by side remain so after a step of both at the same code character. -/
theorem code (h : s.Parallel T L t) (seen : Text) (c : Char) (rest : Text) :
    (s.code seen c rest).1 = (t.code seen c rest).1 ∧
      (s.code seen c rest).2.Parallel T L (t.code seen c rest).2 := by
  unfold Scan.code
  rw [← h.groups]
  by_cases hequals : c = '='
  · rw [if_pos hequals, if_pos hequals]
    exact ⟨rfl, h.report hT hL (equalsToken rest)⟩
  rw [if_neg hequals, if_neg hequals]
  by_cases hsemicolon : c = ';'
  · rw [if_pos hsemicolon, if_pos hsemicolon]
    exact ⟨rfl, h.report hT hL [';']⟩
  rw [if_neg hsemicolon, if_neg hsemicolon]
  cases Group.ofOpener? c with
  | some g => exact ⟨rfl, h.openGroup hT hL c g⟩
  | none =>
    cases Group.ofCloser? c with
    | some g => exact ⟨rfl, h.closeGroup hT hL c g⟩
    | none =>
      simp only
      split_ifs
      · exact ⟨rfl, h.openAngle hL⟩
      · exact ⟨rfl, h.closeAngle hT hL⟩
      · exact ⟨rfl, h.plain hL c⟩

/-- Scans side by side take the same step, and remain side by side. -/
theorem stride (h : s.Parallel T L t) (seen : Text) (c : Char) (rest : Text) :
    (Scan.stride s seen c rest).1 = (Scan.stride t seen c rest).1 ∧
      (Scan.stride s seen c rest).2.Parallel T L (Scan.stride t seen c rest).2 := by
  unfold Scan.stride
  rw [← h.literals]
  rcases Literal.step s.literals seen.head? c rest with ⟨answer, literals⟩
  cases answer with
  | consumed width => exact ⟨rfl, rfl, h.groups, h.tokens, hL.blank h.leading⟩
  | code =>
    have hnext : { s with literals := literals }.Parallel T L { t with literals := literals } :=
      ⟨rfl, h.groups, h.tokens, h.leading⟩
    exact (hnext.settle hT hL c).code hT hL seen c rest

/-- Scans side by side remain so through a text. -/
theorem walk (h : s.Parallel T L t) (k : Nat) (seen text : Text) :
    (Text.walk id Scan.stride s k seen text).Parallel T L
      (Text.walk id Scan.stride t k seen text) :=
  Text.walk_related (fun _ _ seen c rest h => h.stride hT hL seen c rest) k seen text h

omit hL in
/-- The sequences of scans side by side are related as tokens are while nothing is withheld. -/
theorem sequence (h : s.Parallel T L t) (strip : Bool) :
    T ((s.shape strip).sequence, []) ((t.shape strip).sequence, []) := by
  unfold Scan.shape
  rw [← h.groups]
  simp only
  split_ifs
  · exact hT.flush h.tokens
  · exact hT.forget h.tokens

end Parallel

end Scan

end MemberOutline.Shape
