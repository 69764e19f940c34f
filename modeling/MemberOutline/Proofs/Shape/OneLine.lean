import MemberOutline.Proofs.Shape.Attached
import MemberOutline.Proofs.Shape.Pairing
import MemberOutline.Proofs.Text.Rows

/-!
# A shape stands on one line

Nothing in a shape breaks a line, whatever the declaration looks like. The sequence has no blanks at
all (`sequence_solid`), as it consists of openers, closers and the tokens of `=` and `;`. In the
leading text a blank only ever becomes a space (`leadingText_oneLine`), also in type arguments that
are kept, and in those that are given up.
-/

namespace MemberOutline.Shape

open Text (isBlank Solid)

/-! ## The sequence -/

/-- Whole units have no blanks in them. -/
theorem Complete.solid {t : Text} (h : Complete t) : Solid t := by
  obtain ⟨us, hus, rfl⟩ := h
  intro c hc
  obtain ⟨u, hu, hcu⟩ := List.mem_flatten.1 hc
  have hall : ∀ u ∈ units, Solid u := by decide
  exact hall u (hus u hu) c hcu

/-- Whole units and an opener after them have no blanks in them. -/
theorem Complete.solid_concat {t : Text} {o : Char} (h : Complete t) (ho : o ∈ ['(', '[', '{']) :
    Solid (t ++ [o]) := by
  have hopener : Solid ['(', '[', '{'] := by decide
  intro c hc
  rcases List.mem_append.1 hc with hc | hc
  · exact h.solid c hc
  · obtain rfl : c = o := List.mem_singleton.1 hc
    exact hopener c ho

/-- What a scan reports and what it withholds has no blanks in it. -/
theorem Scan.Paired.solid {s : Scan} (h : s.Paired) : Solid s.tokens ∧ Solid s.withheld := by
  cases h with
  | closed _ withheld_eq complete =>
    rw [withheld_eq]
    exact ⟨complete.solid, List.forall_mem_nil _⟩
  | opened _ withheld_eq opener tokens_eq complete =>
    rw [withheld_eq, tokens_eq]
    exact ⟨complete.solid_concat (mem_of_opener opener), List.forall_mem_nil _⟩
  | angles _ pairs complete => exact ⟨complete.solid, pairs.complete.solid⟩
  | round _ withheld_eq pairs complete =>
    rw [withheld_eq]
    exact ⟨complete.solid, pairs.complete.solid_concat (by decide)⟩

/-- The sequence of a shape has no blanks in it. -/
theorem sequence_solid (strip : Bool) (t : Text) : Solid (Shape.ofText strip t).sequence := by
  obtain ⟨htokens, hwithheld⟩ := (Scan.paired_ofText t).solid
  unfold Shape.ofText Scan.shape
  simp only
  split_ifs
  · exact List.forall_mem_append.2 ⟨htokens, hwithheld⟩
  · exact htokens

/-! ## The leading text -/

/-- A text and the type arguments in it stand on one line. -/
structure Collected.OneLine (collected : Collected) : Prop where
  /-- The pieces with the type arguments right after them. -/
  groups : ∀ p ∈ collected.groups, Text.OneLine p.1 ∧ Text.OneLine p.2
  /-- The text after the last type arguments. -/
  text : Text.OneLine collected.text

/-- The whole text stands on one line, with its type arguments or without them. -/
theorem Collected.OneLine.render {collected : Collected} (h : collected.OneLine) (strip : Bool) :
    Text.OneLine (collected.render strip) := by
  refine Text.OneLine.append (fun c hc => ?_) h.text
  obtain ⟨p, hp, hc⟩ := List.mem_flatMap.1 hc
  obtain ⟨htext, harguments⟩ := h.groups p hp
  cases strip with
  | true => exact htext c hc
  | false => exact htext.append harguments c hc

namespace LeadingText

/-- What is collected of a leading text stands on one line. -/
def OneLine : LeadingText → Prop
  | .outside collected _ => collected.OneLine
  | .inside collected arguments _ => collected.OneLine ∧ Text.OneLine arguments
  | .ended collected => collected.OneLine

variable {l : LeadingText} {c : Char}

/-- A character is taken up with at most a space before it. -/
theorem oneLine_spaced (gap : Bool) (hc : isBlank c = false) : Text.OneLine (spaced gap c) := by
  have hsolid : Solid [c] := by
    intro d hd
    rwa [List.mem_singleton.1 hd]
  have hspace : Text.OneLine [' '] := by decide
  cases gap with
  | true => exact hspace.append hsolid.oneLine
  | false => exact hsolid.oneLine

namespace OneLine

/-- A leading text on one line stays there when a character that is no blank is taken up. -/
theorem add (h : l.OneLine) (hc : isBlank c = false) : (l.add c).OneLine := by
  cases l with
  | outside collected gap => exact ⟨h.groups, h.text.append (oneLine_spaced _ hc)⟩
  | inside collected arguments gap => exact ⟨h.1, h.2.append (oneLine_spaced _ hc)⟩
  | ended collected => exact h

/-- A leading text on one line stays there when a blank is noted. -/
theorem blank (h : l.OneLine) : l.blank.OneLine := by
  cases l <;> exact h

/-- A leading text on one line stays there when type arguments begin. -/
theorem enter (h : l.OneLine) : l.enter.OneLine := by
  cases l with
  | outside collected gap => exact ⟨h, (by decide : Text.OneLine ['<'])⟩
  | inside collected arguments gap => exact h
  | ended collected => exact h

/-- A leading text on one line stays there when type arguments close. -/
theorem leave (h : l.OneLine) : l.leave.OneLine := by
  cases l with
  | outside collected gap => exact h.add (by decide)
  | inside collected arguments gap =>
    obtain ⟨hcollected, harguments⟩ := h
    have hclosed := harguments.append (oneLine_spaced gap (by decide : isBlank '>' = false))
    refine ⟨fun p hp => ?_, List.forall_mem_nil _⟩
    rcases List.mem_append.1 hp with hp | hp
    · exact hcollected.groups p hp
    · obtain rfl := List.mem_singleton.1 hp
      exact ⟨hcollected.text, hclosed⟩
  | ended collected => exact h

/-- A leading text on one line stays there when type arguments are given up. -/
theorem giveUp (h : l.OneLine) : l.giveUp.OneLine := by
  cases l with
  | outside collected gap => exact h
  | inside collected arguments gap => exact ⟨h.1.groups, h.1.text.append h.2⟩
  | ended collected => exact h

/-- All that is collected of a leading text on one line stands on that line. -/
theorem collected (h : l.OneLine) : l.collected.OneLine := by
  have hgiven := h.giveUp
  rcases l.giveUp_eq with ⟨gap, hl⟩ | hl <;> rwa [hl] at hgiven

/-- A move keeps the leading text on one line. -/
theorem move {l' : LeadingText} {seen : Text} (h : l.OneLine)
    (hmove : Scan.LeadingMove seen c l l') : l'.OneLine := by
  cases hmove with
  | finish _ => exact h.collected
  | skip _ => exact h
  | blank _ => exact h.blank
  | enter _ _ => exact h.enter
  | leave _ => exact h.leave
  | add hc => exact h.add hc

end OneLine

end LeadingText

namespace Scan

/-- The leading text of a scan stands on one line. -/
def OneLine (s : Scan) : Prop := s.leading.OneLine

/-- Every step keeps the leading text on one line. -/
theorem OneLine.stride {s : Scan} (h : s.OneLine) (seen : Text) (c : Char) (rest : Text) :
    (Scan.stride s seen c rest).2.OneLine := by
  rcases hstep : Literal.step s.literals seen.head? c rest with ⟨answer, next⟩
  cases answer with
  | consumed width =>
    rw [stride_of_consumed hstep]
    exact LeadingText.OneLine.blank h
  | code =>
    obtain ⟨-, rfl⟩ := Literal.step_eq_code hstep
    obtain ⟨l, hl, hmove⟩ := leading_stride_of_code hstep
    have hbefore : l.OneLine := by
      rcases hl with rfl | rfl
      · exact h
      · exact LeadingText.OneLine.giveUp h
    exact hbefore.move hmove

/-- The leading text of a scan that starts is empty and stands on one line. -/
theorem oneLine_start : start.OneLine := ⟨List.forall_mem_nil _, List.forall_mem_nil _⟩

/-- At the end of every text the leading text of the scan stands on one line. -/
theorem oneLine_ofText (t : Text) : (ofText t).OneLine :=
  Text.walk_keeps (fun _ seen c rest h => h.stride seen c rest) start [] t oneLine_start

end Scan

/-- The leading text of a shape stands on one line. -/
theorem leadingText_oneLine (strip : Bool) (t : Text) :
    Text.OneLine (Shape.ofText strip t).leadingText :=
  (LeadingText.OneLine.collected (Scan.oneLine_ofText t)).render strip

end MemberOutline.Shape
