import MemberOutline.Proofs.Shape.Coupling
import MemberOutline.Proofs.Shape.Within

/-!
# What is collected apart from open type arguments

While type arguments are open at depth zero their text is collected by itself, apart from the text
before them. As long as they stay open nothing touches that (`Scan.apart?_within`), so once they are
complete the leading text without type arguments is what it was before them
(`LeadingText.render_leave`).
-/

namespace MemberOutline.Shape

namespace LeadingText

/-- What is collected apart from the type arguments that are open, if some are open or the text is
complete. -/
def apart? : LeadingText → Option Collected
  | .outside _ _ => none
  | .inside collected _ _ | .ended collected => some collected

variable {l : LeadingText} {collected : Collected}

/-- A character changes nothing in what is collected apart. -/
@[simp]
theorem apart?_add (l : LeadingText) (c : Char) : (l.add c).apart? = l.apart? := by
  cases l <;> rfl

/-- A blank does not either. -/
@[simp]
theorem apart?_blank (l : LeadingText) : l.blank.apart? = l.apart? := by
  cases l <;> rfl

/-- Once the type arguments are complete, the text without them is what was collected apart. -/
theorem render_leave (h : l.apart? = some collected) :
    l.leave.collected.render true = collected.render true := by
  cases l with
  | outside _ _ => cases h
  | inside _ arguments gap =>
    obtain rfl := Option.some.inj h
    simp [leave, LeadingText.collected, giveUp, Collected.render]
  | ended _ =>
    obtain rfl := Option.some.inj h
    rfl

/-- Where type arguments begin, all that is collected so far is apart from them. -/
theorem apart?_enter (h : ∀ o ∈ l.outermost?, o = none) :
    l.enter.apart? = some l.collected := by
  cases l with
  | outside _ _ => rfl
  | inside _ _ _ => cases h _ rfl
  | ended _ => rfl

end LeadingText

namespace Scan

variable {s t : Scan} {below : List Group} {seen rest : Text} {c : Char}

/-! ## The leading text while groups stay open -/

/-- Angles given up above groups that stay open leave the leading text as it is. -/
theorem leading_giveUpAngles_of_open (h : s.giveUpAngles.groups ≠ []) :
    s.giveUpAngles.leading = s.leading := by
  rw [groups_giveUpAngles] at h
  rw [giveUpAngles_of_other h]

/-- So do angles that are settled. -/
theorem leading_settle_of_open (h : (s.settle c).groups ≠ []) :
    (s.settle c).leading = s.leading := by
  unfold settle at *
  split_ifs at h ⊢
  · exact leading_giveUpAngles_of_open h
  · rfl

/-- A step that leaves groups open changes nothing in what is collected apart. -/
theorem apart?_stride (hne : below ≠ []) (seen rest : Text) (before : below <:+ s.groups)
    (after : below <:+ (stride s seen c rest).2.groups) :
    (stride s seen c rest).2.leading.apart? = s.leading.apart? := by
  have hmove := stride_move s seen c rest
  generalize stride s seen c rest = answer at hmove after
  have hopen : s.groups ≠ [] := before.ne_nil hne
  have hreport (token : Text) (h : below <:+ ((s.settle c).report token).groups) :
      ((s.settle c).report token).leading.apart? = s.leading.apart? := by
    rw [groups_report] at h
    have hsettled : (s.settle c).groups ≠ [] := h.ne_nil hne
    unfold report
    rw [if_neg hsettled, leading_settle_of_open hsettled]
  cases hmove with
  | literal _ => exact s.leading.apart?_blank
  | equals _ _ | semicolon _ _ => exact hreport _ after
  | @opener g _ hc =>
    rw [groups_openGroup] at after
    have hsettled : (s.settle c).groups ≠ [] :=
      (suffix_settle_of_opener hc before after).ne_nil hne
    rw [openGroup_of_ne_nil hsettled, leading_settle_of_open hsettled]
    exact s.leading.apart?_add c
  | @closer g _ hc =>
    have hgiven : s.giveUpAngles.groups ≠ [] := by
      intro hnil
      have hsettled : (s.settle c).giveUpAngles.groups = [] := by
        rw [giveUpAngles_settle]
        exact hnil
      have hclosed : ((s.settle c).closeGroup c g).groups = [] := by
        unfold closeGroup
        simp only
        rw [if_neg (by rw [hsettled]; simp), hsettled]
      exact after.ne_nil hne hclosed
    have hleading : ((s.settle c).closeGroup c g).leading = s.leading.add c := by
      unfold closeGroup
      rw [giveUpAngles_settle]
      simp only
      split_ifs
      · rw [leading_closeInnermost, leading_giveUpAngles_of_open hgiven]
      · rw [leading_giveUpAngles_of_open hgiven]
    rw [hleading]
    exact s.leading.apart?_add c
  | openAngle _ hc _ =>
    subst hc
    rw [settle_of_holds s (by decide)]
    unfold openAngle
    rw [if_neg hopen]
    exact s.leading.apart?_add '<'
  | closeAngle _ hc _ =>
    subst hc
    rw [settle_of_holds s (by decide)] at after ⊢
    rw [groups_closeAngle] at after
    rw [closeAngle_of_ne_nil (after.ne_nil hne)]
    exact s.leading.apart?_add '>'
  | plain _ _ _ _ _ _ _ =>
    have hsettled : (s.settle c).groups ≠ [] := after.ne_nil hne
    unfold plain
    rw [leading_settle_of_open hsettled]
    simp only
    split_ifs
    · exact s.leading.apart?_blank
    · exact s.leading.apart?_add c

/-- A path on which groups stay open changes nothing in what is collected apart. -/
theorem apart?_within {way : Text} (hne : below ≠ [])
    (hpath : Text.Path id stride (Within below) s seen way rest t) (hend : below <:+ t.groups) :
    t.leading.apart? = s.leading.apart? := by
  induction hpath with
  | stay => rfl
  | @step s t seen more way rest c meets _ onward ih =>
    have hnext := (path_within hne onward hend).1
    have hrest := ih hend
    rw [hrest]
    exact apart?_stride hne _ _ meets hnext

end Scan

end MemberOutline.Shape
