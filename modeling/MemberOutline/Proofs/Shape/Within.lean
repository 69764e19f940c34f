import MemberOutline.Proofs.Shape.Move

/-!
# Staying inside a group

While a group stays open, nothing is reported: what opens and closes above it is no token at depth
zero (`Scan.path_within`). Round brackets may be withheld, but only if the group and all those
around it are angles.
-/

namespace MemberOutline.Shape

namespace Scan

variable {s t : Scan} {below groups : List Group} {c : Char} {g : Group}

/-! ## Groups that stay open -/

/-- Only angles are open below a group if only angles are open. -/
theorem onlyAngles_of_suffix (h : below <:+ groups) (hne : below ≠ [])
    (honly : onlyAngles groups = true) : onlyAngles below = true := by
  unfold onlyAngles at *
  simp only [ne_eq, Bool.and_eq_true, decide_eq_true_eq, List.all_eq_true] at honly ⊢
  exact ⟨hne, fun g hg => honly.2 g (h.subset hg)⟩

/-- Groups that are open before an opener and after it are open when it is reached. -/
theorem suffix_settle_of_opener (hc : Group.ofOpener? c = some g) (before : below <:+ s.groups)
    (after : below <:+ g :: (s.settle c).groups) : below <:+ (s.settle c).groups := by
  rcases List.suffix_cons_iff.1 after with heq | hsuffix
  · -- The group that opens cannot be one of those that were open already.
    obtain ⟨above, habove⟩ := before
    have hkept : (s.settle c).groups = s.groups ∨
        (s.settle c).groups = s.groups.dropWhile (· = .angle) := by
      unfold settle
      split_ifs
      · exact .inr (groups_giveUpAngles s)
      · exact .inl rfl
    have hlength : (s.settle c).groups.length < below.length := by
      rw [heq, List.length_cons]
      exact Nat.lt_succ_self _
    rcases hkept with hkept | hkept
    · rw [hkept, ← habove, List.length_append] at hlength
      omega
    · rw [hkept, ← habove, heq, dropWhile_angle_append (Group.ne_angle_of_opener hc),
        List.length_append] at hlength
      omega
  · exact hsuffix

/-- A closer is passed over where no group is open. -/
theorem groups_closeGroup_of_nil (h : s.groups = []) (c : Char) (g : Group) :
    (s.closeGroup c g).groups = [] := by
  have hgiven : s.giveUpAngles.groups = [] := by
    rw [groups_giveUpAngles, h]
    rfl
  unfold Scan.closeGroup
  simp only
  rw [if_neg (by rw [hgiven]; simp)]
  exact hgiven

/-! ## Reporting nothing -/

/-- From one state to another nothing is reported, and nothing is withheld unless these groups are
angles. -/
def Quiet (below : List Group) (s t : Scan) : Prop :=
  t.tokens = s.tokens ∧ ∃ w, t.withheld = s.withheld ++ w ∧ (onlyAngles below = false → w = [])

namespace Quiet

/-- From one state to another nothing is reported or withheld if they have the same tokens. -/
theorem of_eq (tokens : t.tokens = s.tokens) (withheld : t.withheld = s.withheld) :
    Quiet below s t :=
  ⟨tokens, [], by rw [withheld, List.append_nil], fun _ => rfl⟩

/-- Where nothing is reported on two ways one after the other, nothing is on both. -/
theorem trans {u : Scan} (first : Quiet below s t) (second : Quiet below t u) :
    Quiet below s u := by
  obtain ⟨htokens, v, hv, hnone⟩ := first
  obtain ⟨htokens', w, hw, hnone'⟩ := second
  refine ⟨htokens'.trans htokens, v ++ w, ?_, fun h => ?_⟩
  · rw [hw, hv, List.append_assoc]
  · rw [hnone h, hnone' h, List.append_nil]

/-- Nothing is reported when a round bracket is withheld, or is no token. -/
theorem withhold (h : below <:+ groups) (hne : below ≠ []) (tokens : t.tokens = s.tokens)
    (withheld : t.withheld = if onlyAngles groups then s.withheld ++ [c] else s.withheld) :
    Quiet below s t := by
  refine ⟨tokens, if onlyAngles groups then [c] else [], ?_, fun hnot => if_neg fun honly => ?_⟩
  · rw [withheld]
    split_ifs
    · rfl
    · rw [List.append_nil]
  · rw [onlyAngles_of_suffix h hne honly] at hnot
    cases hnot

/-- Nothing is reported when angles are given up above groups that stay open. -/
theorem giveUpAngles (h : s.giveUpAngles.groups ≠ []) : Quiet below s s.giveUpAngles := by
  rw [groups_giveUpAngles] at h
  rw [giveUpAngles_of_other h]
  exact .of_eq rfl rfl

/-- Nothing is reported when angles are settled above groups that stay open. -/
theorem settle (h : (s.settle c).groups ≠ []) : Quiet below s (s.settle c) := by
  unfold Scan.settle at *
  split_ifs at h ⊢
  · exact .giveUpAngles h
  · exact .of_eq rfl rfl

/-- Nothing is reported of a token inside a group. -/
theorem report (h : s.groups ≠ []) (token : Text) : Quiet below s (s.report token) := by
  unfold Scan.report
  rw [if_neg h]
  exact .of_eq rfl rfl

/-- Nothing is reported when a group opens above others. -/
theorem openGroup (h : below <:+ s.groups) (hne : below ≠ []) (c : Char) (g : Group) :
    Quiet below s (s.openGroup c g) := by
  rw [openGroup_of_ne_nil (h.ne_nil hne)]
  exact .withhold h hne rfl rfl

/-- Nothing is reported when a group closes above others. -/
theorem closeInnermost (h : below <:+ s.groups.tail) (hne : below ≠ []) (c : Char) :
    Quiet below s (s.closeInnermost c) := by
  rw [closeInnermost_of_ne_nil (h.ne_nil hne)]
  exact .withhold h hne rfl rfl

/-- Nothing is reported at a closer above groups that stay open. -/
theorem closeGroup (h : below <:+ (s.closeGroup c g).groups) (hne : below ≠ []) :
    Quiet below s (s.closeGroup c g) := by
  unfold Scan.closeGroup at *
  simp only at h ⊢
  split_ifs at h ⊢ with hmatch
  · rw [groups_closeInnermost] at h
    have hgiven : Quiet below s s.giveUpAngles :=
      .giveUpAngles ((h.trans (List.tail_suffix _)).ne_nil hne)
    exact (hgiven.trans (.closeInnermost h hne c)).trans (.of_eq rfl rfl)
  · have hgiven : Quiet below s s.giveUpAngles := .giveUpAngles (h.ne_nil hne)
    exact hgiven.trans (.of_eq rfl rfl)

/-- Nothing is reported when type arguments close above groups that stay open. -/
theorem closeAngle (h : s.groups.tail ≠ []) : Quiet below s s.closeAngle := by
  rw [closeAngle_of_ne_nil h]
  exact .of_eq rfl rfl

/-- A step that leaves the groups open reports nothing. -/
theorem stride (hne : below ≠ []) (seen rest : Text) (before : below <:+ s.groups)
    (after : below <:+ (Scan.stride s seen c rest).2.groups) :
    Quiet below s (Scan.stride s seen c rest).2 := by
  have hmove := stride_move s seen c rest
  generalize Scan.stride s seen c rest = answer at hmove after
  cases hmove with
  | literal _ => exact .of_eq rfl rfl
  | equals _ _ | semicolon _ _ =>
    rw [groups_report] at after
    exact (Quiet.settle (after.ne_nil hne)).trans (.report (after.ne_nil hne) _)
  | opener _ hc =>
    rw [groups_openGroup] at after
    have hsettled := suffix_settle_of_opener hc before after
    exact (Quiet.settle (hsettled.ne_nil hne)).trans (.openGroup hsettled hne c _)
  | closer _ _ =>
    have hclosed : Quiet below (s.settle c) ((s.settle c).closeGroup c _) := .closeGroup after hne
    have hsettled : (s.settle c).groups ≠ [] := fun hnil =>
      after.ne_nil hne (groups_closeGroup_of_nil hnil c _)
    exact (Quiet.settle hsettled).trans hclosed
  | openAngle _ hc _ =>
    subst hc
    rw [settle_of_holds s (by decide)]
    exact .of_eq rfl rfl
  | closeAngle _ hc _ =>
    subst hc
    rw [settle_of_holds s (by decide)] at after ⊢
    refine .closeAngle fun hnil => ?_
    rw [closeAngle_of_nil hnil] at after
    exact after.ne_nil hne rfl
  | plain _ _ _ _ _ _ _ => exact (Quiet.settle (after.ne_nil hne)).trans (.of_eq rfl rfl)

end Quiet

/-! ## A path -/

/-- The condition on a step that these groups are open before it. -/
def Within (below : List Group) : Text.Condition Scan := fun s _ _ _ => below <:+ s.groups

/-- Where groups stay open, so do those below them. -/
theorem within_mono {above : List Group} {seen way rest : Text} (hwithin : below <:+ above)
    (h : Text.Path id Scan.stride (Within above) s seen way rest t) :
    Text.Path id Scan.stride (Within below) s seen way rest t :=
  h.mono fun _ _ _ _ hvia => hwithin.trans hvia

/-- A path on which groups stay open reports nothing. -/
theorem path_within {seen way rest : Text} (hne : below ≠ [])
    (hpath : Text.Path id Scan.stride (Within below) s seen way rest t)
    (hend : below <:+ t.groups) : below <:+ s.groups ∧ Quiet below s t := by
  induction hpath with
  | stay => exact ⟨hend, .of_eq rfl rfl⟩
  | @step s t seen more way rest c meets _ _ ih =>
    obtain ⟨hnext, hquiet⟩ := ih hend
    exact ⟨meets, (Quiet.stride hne _ _ meets hnext).trans hquiet⟩

end Scan

end MemberOutline.Shape
