import MemberOutline.Proofs.Shape.Move

/-!
# The leading text and the groups

While the leading text is collected, the outermost group says where the scan stands in it: outside
all type arguments nothing is open, and inside them the outermost group is their angle. Any other
group opens with a token at depth zero, which ends the leading text. `Scan.Coupled` is this
invariant, and `Scan.Coupled.stride` shows that every step keeps it.
-/

namespace MemberOutline.Shape

namespace LeadingText

/-- The outermost group that a leading text goes with while it is collected: none outside type
arguments, and an angle inside them. -/
def outermost? : LeadingText → Option (Option Group)
  | .outside _ _ => some none
  | .inside _ _ _ => some (some .angle)
  | .ended _ => none

variable (l : LeadingText)

/-- A character does not lead into type arguments or out of them. -/
@[simp]
theorem outermost?_add (c : Char) : (l.add c).outermost? = l.outermost? := by
  cases l <;> rfl

/-- A blank does not either. -/
@[simp]
theorem outermost?_blank : l.blank.outermost? = l.outermost? := by
  cases l <;> rfl

/-- Type arguments that begin lead into them. -/
@[simp]
theorem outermost?_enter : l.enter.outermost? = l.outermost?.map fun _ => some .angle := by
  cases l <;> rfl

/-- Type arguments that are complete lead out of them. -/
@[simp]
theorem outermost?_leave : l.leave.outermost? = l.outermost?.map fun _ => none := by
  cases l <;> rfl

/-- Type arguments that are given up lead out of them as well. -/
@[simp]
theorem outermost?_giveUp : l.giveUp.outermost? = l.outermost?.map fun _ => none := by
  cases l <;> rfl

/-- A text that is complete goes with any groups. -/
@[simp]
theorem outermost?_finish : l.finish.outermost? = none := rfl

end LeadingText

namespace Scan

/-- The leading text fits the groups that are open. -/
def Coupled (s : Scan) : Prop := ∀ o ∈ s.leading.outermost?, s.groups.getLast? = o

variable {s t : Scan} {c : Char} {g : Group}

/-! ## The parts of a step -/

/-- The coupling asks for no more of a scan than its outermost group and the place in its leading
text. -/
theorem Coupled.of_outermost (h : s.Coupled) (leading : t.leading.outermost? = s.leading.outermost?)
    (groups : t.groups.getLast? = s.groups.getLast?) : t.Coupled := by
  intro o ho
  rw [groups]
  exact h o (leading ▸ ho)

/-- Outside all groups the leading text may leave type arguments. -/
theorem Coupled.of_nil (l : LeadingText) (groups : t.groups = [])
    (leading : t.leading.outermost? = l.outermost?.map fun _ => none) : t.Coupled := by
  intro o ho
  rw [leading] at ho
  obtain ⟨_, -, rfl⟩ := Option.map_eq_some_iff.1 ho
  rw [groups]
  rfl

/-- A group that stays open under others is the outermost one still. -/
theorem getLast?_of_suffix {groups below : List Group} (h : below <:+ groups) (hne : below ≠ []) :
    below.getLast? = groups.getLast? := by
  obtain ⟨above, rfl⟩ := h
  rw [List.getLast?_append_of_ne_nil above hne]

/-- Giving up angles keeps the coupling. -/
theorem Coupled.giveUpAngles (h : s.Coupled) : s.giveUpAngles.Coupled := by
  by_cases hdrop : s.groups.dropWhile (· = .angle) = []
  · rw [giveUpAngles_of_all_angles hdrop]
    exact .of_nil s.leading rfl s.leading.outermost?_giveUp
  · rw [giveUpAngles_of_other hdrop]
    exact h.of_outermost rfl (getLast?_of_suffix (List.dropWhile_suffix _) hdrop)

/-- Settling the angles keeps the coupling. -/
theorem Coupled.settle (h : s.Coupled) (c : Char) : (s.settle c).Coupled := by
  unfold Scan.settle
  split_ifs
  · exact h.giveUpAngles
  · exact h

/-- A leading text that is complete fits any groups. -/
theorem Coupled.of_finish (l : LeadingText) (leading : t.leading = l.finish) : t.Coupled := by
  intro o ho
  rw [leading, l.outermost?_finish] at ho
  cases ho

/-- Reporting a token keeps the coupling. -/
theorem Coupled.report (h : s.Coupled) (token : Text) : (s.report token).Coupled := by
  unfold Scan.report
  split_ifs
  · exact .of_finish s.leading rfl
  · exact h

/-- Opening a group keeps the coupling. -/
theorem Coupled.openGroup (h : s.Coupled) (c : Char) (g : Group) : (s.openGroup c g).Coupled := by
  by_cases hnil : s.groups = []
  · rw [openGroup_of_nil hnil]
    exact .of_finish s.leading rfl
  · rw [openGroup_of_ne_nil hnil]
    exact h.of_outermost (s.leading.outermost?_add c)
      (getLast?_of_suffix (List.suffix_cons g s.groups) hnil).symm

/-- Closing the innermost group keeps the coupling: if it is no angle and the only group, the
leading text is complete. -/
theorem Coupled.closeInnermost (h : s.Coupled) (hg : g ≠ .angle) (hhead : s.groups.head? = some g)
    (c : Char) : (s.closeInnermost c).Coupled := by
  obtain ⟨below, hgroups⟩ := List.head?_eq_some_iff.1 hhead
  by_cases hnil : s.groups.tail = []
  · rw [closeInnermost_of_nil hnil]
    intro o ho
    have hlast := h o ho
    obtain rfl : [] = below := by rw [← hnil, hgroups]; rfl
    cases hleading : s.leading with
    | outside collected gap =>
      simp only [hleading, LeadingText.outermost?, Option.mem_some_iff] at ho
      subst ho
      rfl
    | inside collected arguments gap =>
      simp only [hleading, LeadingText.outermost?, Option.mem_some_iff] at ho
      simp [← ho, hgroups, hg] at hlast
    | ended collected => simp [hleading, LeadingText.outermost?] at ho
  · rw [closeInnermost_of_ne_nil hnil]
    exact h.of_outermost rfl (getLast?_of_suffix (List.tail_suffix s.groups) hnil)

/-- A closer keeps the coupling. -/
theorem Coupled.closeGroup (h : s.Coupled) (hg : g ≠ .angle) (c : Char) :
    (s.closeGroup c g).Coupled := by
  unfold Scan.closeGroup
  simp only
  split_ifs with hhead
  · have hclosed := h.giveUpAngles.closeInnermost hg hhead c
    exact hclosed.of_outermost (LeadingText.outermost?_add _ c) rfl
  · exact h.giveUpAngles.of_outermost (LeadingText.outermost?_add _ c) rfl

/-- Opening type arguments keeps the coupling. -/
theorem Coupled.openAngle (h : s.Coupled) : s.openAngle.Coupled := by
  unfold Scan.openAngle
  by_cases hnil : s.groups = []
  · intro o ho
    simp only [hnil, if_true, LeadingText.outermost?_enter] at ho
    obtain ⟨_, -, rfl⟩ := Option.map_eq_some_iff.1 ho
    simp [hnil]
  · rw [if_neg hnil]
    exact h.of_outermost (s.leading.outermost?_add '<')
      (getLast?_of_suffix (List.suffix_cons .angle s.groups) hnil).symm

/-- Closing type arguments keeps the coupling. -/
theorem Coupled.closeAngle (h : s.Coupled) : s.closeAngle.Coupled := by
  by_cases hnil : s.groups.tail = []
  · rw [closeAngle_of_nil hnil]
    exact .of_nil s.leading rfl s.leading.outermost?_leave
  · rw [closeAngle_of_ne_nil hnil]
    exact h.of_outermost (s.leading.outermost?_add '>')
      (getLast?_of_suffix (List.tail_suffix s.groups) hnil)

/-- Taking up a character keeps the coupling. -/
theorem Coupled.plain (h : s.Coupled) (c : Char) : (s.plain c).Coupled := by
  refine h.of_outermost ?_ rfl
  unfold Scan.plain
  simp only
  split_ifs
  · exact s.leading.outermost?_blank
  · exact s.leading.outermost?_add c

/-! ## A step and a walk -/

/-- Every step keeps the coupling. -/
theorem Coupled.stride (h : s.Coupled) (seen : Text) (c : Char) (rest : Text) :
    (Scan.stride s seen c rest).2.Coupled := by
  have hmove := stride_move s seen c rest
  generalize Scan.stride s seen c rest = taken at hmove
  have hsettled := h.settle c
  cases hmove with
  | literal _ => exact h.of_outermost s.leading.outermost?_blank rfl
  | equals _ _ => exact hsettled.report (equalsToken rest)
  | semicolon _ _ => exact hsettled.report [';']
  | opener _ _ => exact hsettled.openGroup c _
  | closer _ hc => exact hsettled.closeGroup (Group.ne_angle_of_closer hc) c
  | openAngle _ _ _ => exact hsettled.openAngle
  | closeAngle _ _ _ => exact hsettled.closeAngle
  | plain _ _ _ _ _ _ _ => exact hsettled.plain c

/-- The coupling holds at the start. -/
theorem coupled_start : start.Coupled := by
  intro o ho
  obtain rfl : none = o := by simpa [start, LeadingText.start, LeadingText.outermost?] using ho
  rfl

end Scan

end MemberOutline.Shape
