import MemberOutline.Proofs.Shape.Attached
import MemberOutline.Proofs.Shape.ClosedArguments
import MemberOutline.Proofs.Shape.Coupling
import MemberOutline.Proofs.Shape.Truncation

/-!
# Type arguments that are open

Which steps lead into type arguments at depth zero, and which out of them. An angle is the outermost
group only from the step on that opens it at depth zero (`getLast?_groups_stride`), so a scan inside
it has come there from that `<` (`exists_openSince`), and no walk comes to depth zero in between
(`OpenSince.not_inside`). The type arguments that a leading text keeps apart are joined by others
only where the last angle closes before the leading text has ended (`quits_or_groups_eq`).
-/

namespace MemberOutline.Shape

open Text (anyStep)

namespace LeadingText

variable (l : LeadingText) (c : Char)

/-- A character that is taken up joins no type arguments to those kept apart. -/
@[simp]
theorem groups_collected_add : (l.add c).collected.groups = l.collected.groups := by
  cases l <;> rfl

/-- A blank does not either. -/
@[simp]
theorem groups_collected_blank : l.blank.collected.groups = l.collected.groups := by
  cases l <;> rfl

/-- Nor do type arguments that begin. -/
@[simp]
theorem groups_collected_enter : l.enter.collected.groups = l.collected.groups := by
  cases l <;> rfl

/-- Nor do type arguments that are given up. -/
@[simp]
theorem groups_collected_giveUp : l.giveUp.collected.groups = l.collected.groups := by
  cases l <;> rfl

/-- Nor does the end of the text. -/
@[simp]
theorem groups_collected_finish : l.finish.collected.groups = l.collected.groups := rfl

end LeadingText

namespace Scan

variable {s t : Scan} {seen rest : Text} {c : Char} {g : Group} {below groups : List Group}

/-! ## The outermost group -/

/-- The outermost of some groups is that of all groups around them as well. -/
theorem getLast?_eq_of_suffix (h : below <:+ groups) (hlast : below.getLast? = some g) :
    groups.getLast? = some g := by
  have hne : below ≠ [] := by
    rintro rfl
    cases hlast
  rw [← getLast?_of_suffix h hne, hlast]

/-- Settling the angles leaves the groups below them. -/
theorem suffix_settle (s : Scan) (c : Char) : (s.settle c).groups <:+ s.groups := by
  unfold settle
  split_ifs
  · rw [groups_giveUpAngles]
    exact List.dropWhile_suffix _
  · exact List.suffix_rfl

/-- A closer leaves some of the groups. -/
theorem suffix_closeGroup (s : Scan) (c : Char) (g : Group) :
    (s.closeGroup c g).groups <:+ s.groups := by
  have hgiven : s.giveUpAngles.groups <:+ s.groups := by
    rw [groups_giveUpAngles]
    exact List.dropWhile_suffix _
  unfold closeGroup
  simp only
  split_ifs
  · rw [groups_closeInnermost]
    exact (List.tail_suffix _).trans hgiven
  · exact hgiven

/-- Where an angle is the outermost group after a step, it was so before, or it opens at depth
zero. -/
theorem getLast?_groups_stride (hlast : (stride s seen c rest).2.groups.getLast? = some .angle) :
    s.groups.getLast? = some .angle ∨
      s.literals = [] ∧ s.groups = [] ∧ c = '<' ∧ opensArguments seen = true := by
  have hmove := stride_move s seen c rest
  generalize stride s seen c rest = answer at hmove hlast
  cases hmove with
  | literal _ => exact .inl hlast
  | equals _ _ | semicolon _ _ =>
    rw [groups_report] at hlast
    exact .inl (getLast?_eq_of_suffix (suffix_settle s c) hlast)
  | @opener g _ hc =>
    rw [groups_openGroup] at hlast
    by_cases hnil : (s.settle c).groups = []
    · -- The group that opens is no angle.
      rw [hnil, List.getLast?_singleton] at hlast
      exact absurd (Option.some.inj hlast) (Group.ne_angle_of_opener hc)
    · rw [← getLast?_of_suffix (List.suffix_cons g _) hnil] at hlast
      exact .inl (getLast?_eq_of_suffix (suffix_settle s c) hlast)
  | closer _ _ =>
    exact .inl (getLast?_eq_of_suffix ((suffix_closeGroup _ c _).trans (suffix_settle s c)) hlast)
  | openAngle code hc opens =>
    subst hc
    rw [settle_of_holds s (by decide)] at hlast
    by_cases hnil : s.groups = []
    · exact .inr ⟨(Literal.step_eq_code code).1, hnil, rfl, opens⟩
    · left
      rw [getLast?_of_suffix (List.suffix_cons .angle s.groups) hnil]
      exact hlast
  | closeAngle _ _ _ =>
    rw [groups_closeAngle] at hlast
    exact .inl (getLast?_eq_of_suffix ((List.tail_suffix _).trans (suffix_settle s c)) hlast)
  | plain _ _ _ _ _ _ _ => exact .inl (getLast?_eq_of_suffix (suffix_settle s c) hlast)

/-! ## The type arguments kept apart -/

/-- A scan is at the `>` of type arguments at depth zero, and the leading text has not ended. -/
def Quits (s : Scan) (c : Char) : Prop :=
  s.literals = [] ∧ c = '>' ∧ s.groups = [.angle] ∧
    ∃ collected arguments gap, s.leading = .inside collected arguments gap

/-- A step joins no type arguments to those kept apart, unless it is at the `>` of some. -/
theorem quits_or_groups_eq (s : Scan) (seen : Text) (c : Char) (rest : Text) :
    s.Quits c ∨
      (stride s seen c rest).2.leading.collected.groups = s.leading.collected.groups := by
  have hsettled : (s.settle c).leading.collected.groups = s.leading.collected.groups := by
    rw [collected_settle]
  have hmove := stride_move s seen c rest
  generalize stride s seen c rest = answer at hmove
  have hreport (token : Text) : ((s.settle c).report token).leading.collected.groups =
      s.leading.collected.groups := by
    unfold report
    split_ifs
    · rw [LeadingText.groups_collected_finish, hsettled]
    · exact hsettled
  cases hmove with
  | literal _ => exact .inr s.leading.groups_collected_blank
  | equals _ _ | semicolon _ _ => exact .inr (hreport _)
  | opener _ _ =>
    right
    by_cases hnil : (s.settle c).groups = []
    · rw [openGroup_of_nil hnil, LeadingText.groups_collected_finish, hsettled]
    · rw [openGroup_of_ne_nil hnil, LeadingText.groups_collected_add, hsettled]
  | closer _ _ =>
    have hgiven : s.giveUpAngles.leading.collected.groups = s.leading.collected.groups := by
      rcases leading_giveUpAngles s with h | h
      · rw [h]
      · rw [h, LeadingText.groups_collected_giveUp]
    right
    unfold closeGroup
    rw [giveUpAngles_settle]
    simp only
    split_ifs <;> simp [leading_closeInnermost, hgiven]
  | openAngle _ _ _ =>
    right
    unfold openAngle
    simp only
    split_ifs
    · rw [LeadingText.groups_collected_enter, hsettled]
    · rw [LeadingText.groups_collected_add, hsettled]
  | closeAngle code hc top =>
    subst hc
    rw [settle_of_holds s (by decide)] at top ⊢
    by_cases hnil : s.groups.tail = []
    · rw [closeAngle_of_nil hnil]
      have hgroups : s.groups = [.angle] := by
        rw [List.eq_cons_of_mem_head? (Option.mem_def.2 top), hnil]
      cases hleading : s.leading with
      | inside collected arguments gap =>
        have houtside := (Literal.step_eq_code code).1
        exact .inl ⟨houtside, rfl, hgroups, collected, arguments, gap, hleading⟩
      | outside collected gap => exact .inr (by simp [LeadingText.leave])
      | ended collected => exact .inr (by simp [LeadingText.leave])
    · rw [closeAngle_of_ne_nil hnil]
      exact .inr (s.leading.groups_collected_add '>')
  | plain _ _ _ _ _ _ _ =>
    right
    unfold plain
    split_ifs <;> simp [hsettled]

/-- At their `>` the type arguments join those kept apart, with the text before them. -/
theorem groups_closeAngle_of_inside {collected : Collected} {arguments : Text} {gap : Bool}
    (hgroups : s.groups = [.angle]) (hleading : s.leading = .inside collected arguments gap) :
    s.closeAngle.leading.collected.groups = s.leading.collected.groups ++
      [(collected.text, arguments ++ LeadingText.spaced gap '>')] := by
  rw [closeAngle_of_nil (by rw [hgroups]; rfl), hleading]
  rfl

/-! ## From the `<` on -/

/-- Angles stay open at depth zero where one is the outermost group. -/
theorem suffix_angle_iff : [.angle] <:+ groups ↔ groups.getLast? = some .angle := by
  rw [List.getLast?_eq_some_iff]
  exact ⟨fun ⟨above, h⟩ => ⟨above, h.symm⟩, fun ⟨above, h⟩ => ⟨above, h.symm⟩⟩

/-- A scan has come to a `<` after `before` that opens type arguments at depth zero, and these have
stayed open since, through `body`. -/
def OpenSince (before body rest : Text) (s : Scan) : Prop :=
  ∃ u, Text.Path id stride anyStep .start [] before ('<' :: (body ++ rest)) u ∧
    u.literals = [] ∧ u.groups = [] ∧ opensArguments before.reverse = true ∧
    Text.Path id stride (Within [.angle]) u.openAngle ('<' :: before.reverse) body rest s

/-- A scan with an angle as its outermost group has come to type arguments that stayed open. -/
theorem exists_openSince {way : Text} (h : Text.Path id stride anyStep .start [] way rest s)
    (hlast : s.groups.getLast? = some .angle) :
    ∃ before body, way = before ++ '<' :: body ∧ OpenSince before body rest s := by
  refine h.keeps_split (motive := fun s way rest => s.groups.getLast? = some .angle →
    ∃ before body, way = before ++ '<' :: body ∧ OpenSince before body rest s)
    ?_ (fun hstart => by cases hstart) hlast
  intro u a c more after _ hpath covers hkept hnext
  rcases getLast?_groups_stride hnext with hopen | ⟨outside, hgroups, rfl, opens⟩
  · -- They were open before the step, which is one more inside them.
    obtain ⟨before, body, rfl, v, arrives, houtside, hdepth, hopens, inside⟩ := hkept hopen
    have hseen : (before ++ '<' :: body).reverse = body.reverse ++ '<' :: before.reverse := by simp
    rw [hseen] at covers hnext ⊢
    refine ⟨before, body ++ c :: more, by simp, v, ?_, houtside, hdepth, hopens, ?_⟩
    · simpa using arrives
    · exact inside.trans (.one (suffix_angle_iff.2 hopen) covers)
  · -- The step opens them.
    rw [stride_openAngle outside opens] at covers ⊢
    obtain rfl : [] = more := covers
    exact ⟨a, [], rfl, u, hpath, outside, hgroups, opens, .stay⟩

namespace OpenSince

variable {before body : Text}

/-- The scan goes on from the `<` while the type arguments stay open. -/
theorem exists_path (h : OpenSince before body rest s) :
    ∃ v, Text.Path id stride anyStep .start [] (before ++ ['<']) (body ++ rest) v ∧
      Text.Path id stride (Within [.angle]) v (before ++ ['<']).reverse body rest s := by
  obtain ⟨u, arrives, outside, -, opens, inside⟩ := h
  have hopen : Text.Path id stride anyStep u (before.reverse ++ []) ['<'] (body ++ rest)
      u.openAngle := by
    rw [List.append_nil]
    exact .cons_one trivial (stride_openAngle outside opens _) rfl .stay
  have hfirst : Text.Path id stride anyStep .start [] (before ++ ['<']) (body ++ rest)
      u.openAngle := .trans arrives hopen
  exact ⟨u.openAngle, hfirst, by simpa using inside⟩

/-- So it has taken a path from the start. -/
theorem path (h : OpenSince before body rest s) :
    Text.Path id stride anyStep .start [] (before ++ '<' :: body) rest s := by
  obtain ⟨v, first, second⟩ := h.exists_path
  have hboth : Text.Path id stride anyStep .start [] ((before ++ ['<']) ++ body) rest s :=
    .trans first (by simpa using second.mono fun _ _ _ _ _ => (trivial : True))
  simpa using hboth

/-- No walk comes to depth zero while the type arguments stay open. -/
theorem not_inside {way rest' : Text} {u : Scan} (h : OpenSince before body rest s)
    (hlast : s.groups.getLast? = some .angle)
    (path : Text.Path id stride anyStep .start [] way rest' u)
    (same : way ++ rest' = before ++ '<' :: (body ++ rest)) (depth : u.groups = []) :
    way.length ≤ before.length ∨ before.length + body.length + 1 < way.length := by
  by_contra hnot
  rw [not_or, Nat.not_le, Nat.not_lt] at hnot
  obtain ⟨hafter, hbefore⟩ := hnot
  obtain ⟨v, first, second⟩ := h.exists_path
  -- The walk to depth zero goes on from the `<`, and from there the scan goes on to its end.
  obtain ⟨x, rfl, hrest, hpath⟩ := first.onward_of_le path (by rw [same]; simp) (by
    rw [List.length_append]
    exact hafter)
  obtain ⟨y, -, -, hon⟩ := Text.Path.onward_of_le hpath (by simpa using second) hrest.symm (by
    simp only [List.length_append, List.length_singleton] at hbefore
    omega)
  obtain ⟨hwithin, -⟩ := path_within (List.cons_ne_nil _ _) hon (suffix_angle_iff.2 hlast)
  exact hwithin.ne_nil (List.cons_ne_nil _ _) depth

end OpenSince

end Scan

end MemberOutline.Shape
