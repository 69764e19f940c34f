import MemberOutline.Proofs.Shape.Silence
import MemberOutline.Proofs.Shape.Truncation
import MemberOutline.Proofs.Shape.Within

/-!
# Inside a group

What stands between an opener at depth zero and its closer is of no influence on the shape
(`GroupCloses.shape_eq`). The opener is a token and ends the leading text. While its group is open
nothing is reported or withheld (`Scan.path_within`), and a leading text that is complete remains as
it is. So the closer leads to a state that can be said without the body (`Scan.pastGroup`), and
since a closer belongs to no identifier, nothing after it can see into the group.
-/

namespace MemberOutline.Shape

open Text (anyStep isIdentifierChar)

namespace Scan

variable {s t : Scan} {a body b seen rest : Text} {o c : Char} {g : Group}

/-! ## From the opener to the closer -/

/-- No opener belongs to a literal. -/
theorem step_of_opener (before : Option Char) (rest : Text) (ho : Group.ofOpener? o = some g) :
    Literal.step [] before o rest = (.code, []) := by
  apply Literal.step_of_not_mem
  rcases Group.ofOpener?_eq_some_iff.1 ho with ⟨rfl, -⟩ | ⟨rfl, -⟩ | ⟨rfl, -⟩ <;> decide

/-- No closer belongs to a literal. -/
theorem step_of_closer (before : Option Char) (rest : Text) (hc : Group.ofCloser? c = some g) :
    Literal.step [] before c rest = (.code, []) := by
  apply Literal.step_of_not_mem
  rcases Group.ofCloser?_eq_some_iff.1 hc with ⟨rfl, -⟩ | ⟨rfl, -⟩ | ⟨rfl, -⟩ <;> decide

/-- A leading text that is complete remains as it is. -/
theorem leading_of_path_ended {via : Text.Condition Scan} {collected : Collected}
    (hpath : Text.Path id stride via s seen body rest t) (h : s.leading = .ended collected) :
    t.leading = .ended collected := by
  induction hpath with
  | stay => exact h
  | @step s t seen more way rest c _ _ _ ih =>
    have hself : s.Parallel (fun p _ => [] <+: p.1) (fun l _ => l = .ended collected) s :=
      ⟨rfl, rfl, List.nil_prefix, h⟩
    have hstride := hself.stride (.beginning []) (.ended collected) seen c (more ++ (way ++ rest))
    exact ih hstride.2.leading

/-- Where a scan stands after a group at depth zero, whatever is in it. -/
def pastGroup (s : Scan) (o c : Char) : Scan :=
  { s.settle o with
    tokens := (s.settle o).tokens ++ [o, c]
    leading := .ended s.leading.collected }

/-- On a path on which the group of an opener stays open nothing but the groups and the literals
change. -/
theorem eq_of_path_within (ho : Group.ofOpener? o = some g) (depth : (s.settle o).groups = [])
    (inside : Text.Path id stride (Within [g]) ((s.settle o).openGroup o g) seen body rest t)
    (hend : [g] <:+ t.groups) :
    t = { s.settle o with
      literals := t.literals
      groups := t.groups
      tokens := (s.settle o).tokens ++ [o]
      leading := .ended s.leading.collected } := by
  have hopened := openGroup_of_nil depth o g
  have hended : (s.settle o).leading.finish = .ended s.leading.collected := by
    rw [LeadingText.finish, collected_settle]
  rw [hended] at hopened
  rw [hopened] at inside
  -- Nothing is withheld, since the group is no angle.
  obtain ⟨-, htokens, w, hwithheld, hnone⟩ := path_within (List.cons_ne_nil g []) inside hend
  have hother : onlyAngles [g] = false :=
    onlyAngles_of_other (Group.ne_angle_of_opener ho) [] []
  rw [hnone hother, List.append_nil] at hwithheld
  have hleading := leading_of_path_ended inside rfl
  obtain ⟨literals, groups, tokens, withheld, leading⟩ := t
  simp only at htokens hwithheld hleading
  rw [htokens, hwithheld, hleading]

/-- The closer of the only group that is open leads past it. -/
theorem closeGroup_eq_pastGroup (hs : s.literals = [])
    (ht : t = { s.settle o with
      literals := t.literals
      groups := t.groups
      tokens := (s.settle o).tokens ++ [o]
      leading := .ended s.leading.collected })
    (depth : (s.settle o).groups = []) (hcode : t.literals = [])
    (innermost : t.giveUpAngles.groups = [g]) :
    (t.settle c).closeGroup c g = s.pastGroup o c := by
  have hgiven : t.giveUpAngles = { t with groups := [g] } := by
    rw [groups_giveUpAngles] at innermost
    rw [giveUpAngles_of_other (by rw [innermost]; exact List.cons_ne_nil g []), innermost]
  have hhead : { t with groups := [g] }.groups.head? = some g := rfl
  unfold closeGroup
  simp only [giveUpAngles_settle]
  rw [hgiven, if_pos hhead, closeInnermost_of_nil rfl, ht]
  unfold pastGroup
  simp only [hcode, depth, literals_settle, hs, LeadingText.add, List.append_assoc,
    List.cons_append, List.nil_append]

end Scan

/-! ## A group at depth zero -/

/-- A scan comes to an opener after `a` that stands at depth zero, goes through `body` while its
group stays open, and comes to the closer that closes it. -/
def GroupCloses (a : Text) (o : Char) (body : Text) (c : Char) (b : Text) : Prop :=
  ∃ (g : Group) (s t : Scan), Group.ofOpener? o = some g ∧ Group.ofCloser? c = some g ∧
    Text.Path id Scan.stride anyStep .start [] a (o :: (body ++ c :: b)) s ∧ s.literals = [] ∧
    (s.settle o).groups = [] ∧
    Text.Path id Scan.stride (Scan.Within [g]) ((s.settle o).openGroup o g) (o :: a.reverse) body
      (c :: b) t ∧ t.literals = [] ∧ t.giveUpAngles.groups = [g]

/-- Runs a scan to find out whether a group at depth zero is closed. -/
def findsGroup (g : Group) (a : Text) (o : Char) (body : Text) (c : Char) (b : Text) : Bool :=
  (Group.ofOpener? o = some g ∧ Group.ofCloser? c = some g) &&
    (Text.arrival? id Scan.stride (fun _ _ _ _ => true) .start 0 [] a
        (o :: (body ++ c :: b))).any fun s =>
      (s.literals = [] ∧ (s.settle o).groups = []) &&
        (Text.arrival? id Scan.stride (fun s _ _ _ => [g].isSuffixOf s.groups)
          ((s.settle o).openGroup o g) 0 (o :: a.reverse) body (c :: b)).any fun t =>
            t.literals = [] ∧ t.giveUpAngles.groups = [g]

variable {a body b : Text} {o c : Char}

/-- A group that is found to be closed is closed. -/
theorem GroupCloses.of_finds {g : Group} (h : findsGroup g a o body c b = true) :
    GroupCloses a o body c b := by
  simp only [findsGroup, Option.any_eq_true, Bool.and_eq_true, decide_eq_true_eq] at h
  obtain ⟨⟨ho, hc⟩, s, hfirst, ⟨hs, hdepth⟩, t, hsecond, ht, hinnermost⟩ := h
  have hbefore := (Text.path_of_arrival hfirst).1.mono fun _ _ _ _ _ => (trivial : True)
  have hinside := (Text.path_of_arrival hsecond).1.mono fun _ _ _ _ hvia =>
    List.isSuffixOf_iff_suffix.1 hvia
  exact ⟨g, s, t, ho, hc, hbefore, hs, hdepth, hinside, ht, hinnermost⟩

/-- After a group a scan goes on in a state that does not depend on what is in it. -/
theorem GroupCloses.ofText_eq (h : GroupCloses a o body c b) :
    Scan.ofText (a ++ o :: (body ++ c :: b)) =
      Text.walk id Scan.stride ((Scan.ofText a).pastGroup o c) 0 [c] b := by
  obtain ⟨g, s, t, ho, hc, arrives, outside, depth, inside, hcode, innermost⟩ := h
  rw [Scan.ofText_eq_of_path arrives outside]
  have hend : [g] <:+ t.groups := by
    rw [Scan.groups_giveUpAngles] at innermost
    rw [← innermost]
    exact List.dropWhile_suffix _
  have hstate := Scan.eq_of_path_within ho depth inside hend
  have hopener : Scan.stride s a.reverse o (body ++ c :: b) =
      (1, (s.settle o).openGroup o g) := by
    rw [Scan.stride_of_code (by rw [outside]; exact Scan.step_of_opener _ _ ho),
      Scan.code_of_opener _ _ _ ho]
  have hcloser : Scan.stride t (body.reverse ++ o :: a.reverse) c b =
      (1, s.pastGroup o c) := by
    rw [Scan.stride_of_code (by rw [hcode]; exact Scan.step_of_closer _ _ hc),
      Scan.code_of_closer _ _ _ hc,
      Scan.closeGroup_eq_pastGroup outside hstate depth hcode innermost]
  -- A closer ends every identifier before it.
  have hseen : (c :: (body.reverse ++ o :: a.reverse)).takeWhile isIdentifierChar =
      [c].takeWhile isIdentifierChar := by
    rcases Group.ofCloser?_eq_some_iff.1 hc with ⟨rfl, -⟩ | ⟨rfl, -⟩ | ⟨rfl, -⟩ <;> rfl
  calc Scan.ofText (a ++ o :: (body ++ c :: b))
      = Text.walk id Scan.stride s 0 a.reverse (o :: (body ++ c :: b)) := by
        rw [Scan.ofText, arrives.walk_eq, List.append_nil]
    _ = Text.walk id Scan.stride ((s.settle o).openGroup o g) 0 (o :: a.reverse)
          (body ++ c :: b) := by
        rw [Text.walk, hopener]
        rfl
    _ = Text.walk id Scan.stride t 0 (body.reverse ++ o :: a.reverse) (c :: b) := inside.walk_eq
    _ = Text.walk id Scan.stride (s.pastGroup o c) 0 (c :: (body.reverse ++ o :: a.reverse)) b := by
        rw [Text.walk, hcloser]
        rfl
    _ = Text.walk id Scan.stride (s.pastGroup o c) 0 [c] b := Scan.walk_of_seen _ 0 b hseen

/-- What is in a group at depth zero is of no influence on the shape. -/
theorem GroupCloses.shape_eq {body' : Text} (h : GroupCloses a o body c b)
    (h' : GroupCloses a o body' c b) (strip : Bool) :
    Shape.ofText strip (a ++ o :: (body ++ c :: b)) =
      Shape.ofText strip (a ++ o :: (body' ++ c :: b)) := by
  rw [Shape.ofText, Shape.ofText, h.ofText_eq, h'.ofText_eq]

end MemberOutline.Shape
