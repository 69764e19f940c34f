import MemberOutline.Proofs.Shape.Attached
import MemberOutline.Proofs.Shape.Parallel

/-!
# Dropping type arguments at once

A scan keeps type arguments apart to the end, and only its shape drops or keeps them. It might as
well do so at each `>`: a scan that resolves the type arguments after every step ends in the same
shape (`shape_resolving`).

The one thing that resolving might change is what a step asks of the leading text: whether anything
is collected, since a gap before the first character is not a space. It does not, as type arguments
stand after a word, so that something is left where they are dropped (`Collected.Kindred`).
-/

namespace MemberOutline.Shape

variable {strip : Bool}

/-! ## What is collected -/

namespace Collected

variable {c d : Collected}

/-- The whole text, with its type arguments dropped or kept for good. -/
def resolve (strip : Bool) (c : Collected) : Collected := ⟨[], c.render strip⟩

/-- Two texts are the same once their type arguments are dropped or kept, and both are empty or
neither is. -/
structure Kindred (strip : Bool) (c d : Collected) : Prop where
  /-- They are the same text. -/
  render : c.render strip = d.render strip
  /-- Both are empty or neither is. -/
  empty : c = .empty ↔ d = .empty

/-- Kindred texts are so with more text after them. -/
theorem Kindred.append (h : c.Kindred strip d) (t : Text) :
    Kindred strip { c with text := c.text ++ t } { d with text := d.text ++ t } := by
  have hempty (c : Collected) : ({ c with text := c.text ++ t } : Collected) = .empty ↔
      c = .empty ∧ t = [] := by
    cases c
    simp [Collected.empty, and_assoc]
  refine ⟨?_, by rw [hempty, hempty, h.empty]⟩
  have hrender (c : Collected) :
      Collected.render strip { c with text := c.text ++ t } = c.render strip ++ t := by
    simp [Collected.render]
  rw [hrender, hrender, h.render]

/-- Kindred texts are so with the same type arguments after them. -/
theorem Kindred.leave (h : c.Kindred strip d) (arguments : Text) :
    Kindred strip ⟨c.groups ++ [(c.text, arguments)], []⟩
      ⟨d.groups ++ [(d.text, arguments)], []⟩ := by
  refine ⟨?_, by simp [Collected.empty]⟩
  have hrender (c : Collected) :
      Collected.render strip ⟨c.groups ++ [(c.text, arguments)], []⟩ =
        c.render strip ++ if strip then [] else arguments := by
    cases strip <;> simp [Collected.render]
  rw [hrender, hrender, h.render]

/-- Resolving changes nothing, where the type arguments are attached to words. -/
theorem Attached.kindred_resolve (h : c.Attached) : c.Kindred strip (c.resolve strip) := by
  refine ⟨by simp [Collected.render, resolve], fun hempty => by subst hempty; rfl, fun hempty => ?_⟩
  obtain ⟨groups, text⟩ := c
  have hrender : Collected.render strip ⟨groups, text⟩ = [] := congrArg Collected.text hempty
  obtain ⟨hgroups, rfl⟩ := List.append_eq_nil_iff.1 hrender
  cases groups with
  | nil => rfl
  | cons p groups =>
    -- The first type arguments have some text before them.
    have hbefore := (h.before p List.mem_cons_self).ne_nil
    cases strip <;> simp [hbefore] at hgroups

end Collected

/-! ## Leading texts -/

namespace LeadingText

/-- A leading text with the type arguments that are complete dropped or kept for good. -/
def resolve (strip : Bool) : LeadingText → LeadingText
  | .outside collected gap => .outside (collected.resolve strip) gap
  | .inside collected arguments gap => .inside (collected.resolve strip) arguments gap
  | .ended collected => .ended (collected.resolve strip)

/-- Two leading texts stand at the same place with kindred texts collected. -/
inductive Kindred (strip : Bool) : LeadingText → LeadingText → Prop
  /-- Outside type arguments. -/
  | outside {c d : Collected} (kindred : c.Kindred strip d) (gap : Bool) :
    Kindred strip (.outside c gap) (.outside d gap)
  /-- Inside type arguments, of which both have collected the same. -/
  | inside {c d : Collected} (kindred : c.Kindred strip d) (arguments : Text) (gap : Bool) :
    Kindred strip (.inside c arguments gap) (.inside d arguments gap)
  /-- At the end. -/
  | ended {c d : Collected} (kindred : c.Kindred strip d) : Kindred strip (.ended c) (.ended d)

variable {l m : LeadingText}

/-- Kindred leading texts take up a character in the same way. -/
theorem Kindred.add (h : l.Kindred strip m) (c : Char) : (l.add c).Kindred strip (m.add c) := by
  cases h with
  | outside kindred gap =>
    have hgap : decide (_ ≠ Collected.empty) = decide (_ ≠ Collected.empty) :=
      decide_eq_decide.2 (not_congr kindred.empty)
    simp only [LeadingText.add, hgap]
    exact .outside (kindred.append _) false
  | inside kindred arguments gap => exact .inside kindred _ false
  | ended kindred => exact .ended kindred

/-- Kindred leading texts have kindred texts collected in all. -/
theorem Kindred.collected (h : l.Kindred strip m) : l.collected.Kindred strip m.collected := by
  cases h with
  | outside kindred gap => exact kindred
  | inside kindred arguments gap => exact kindred.append arguments
  | ended kindred => exact kindred

/-- Resolving changes nothing, where the type arguments are attached to words. -/
theorem Attached.kindred_resolve (h : l.Attached) : l.Kindred strip (l.resolve strip) := by
  cases l with
  | outside collected gap => exact .outside (Collected.Attached.kindred_resolve h) gap
  | inside collected arguments gap =>
    exact .inside (Collected.Attached.kindred_resolve h.1) arguments gap
  | ended collected => exact .ended (Collected.Attached.kindred_resolve h)

/-- Kindred leading texts are the same once they are resolved. -/
theorem Kindred.resolve_eq (h : l.Kindred strip m) : l.resolve strip = m.resolve strip := by
  cases h with
  | outside kindred gap | inside kindred arguments gap | ended kindred =>
    simp only [resolve, Collected.resolve, kindred.render]

end LeadingText

/-- What a step does to two kindred leading texts keeps them kindred. -/
theorem LeadingKept.kindred (strip : Bool) : LeadingKept (LeadingText.Kindred strip) where
  add := fun c h => h.add c
  blank := by
    rintro l m (⟨kindred, gap⟩ | ⟨kindred, arguments, gap⟩ | ⟨kindred⟩)
    · exact .outside kindred true
    · exact .inside kindred arguments true
    · exact .ended kindred
  enter := by
    rintro l m (⟨kindred, gap⟩ | ⟨kindred, arguments, gap⟩ | ⟨kindred⟩)
    · exact .inside kindred ['<'] false
    · exact .inside kindred arguments gap
    · exact .ended kindred
  leave := by
    rintro l m (⟨kindred, gap⟩ | ⟨kindred, arguments, gap⟩ | ⟨kindred⟩)
    · exact (LeadingText.Kindred.outside kindred gap).add '>'
    · exact .outside (kindred.leave _) false
    · exact .ended kindred
  giveUp := by
    rintro l m (⟨kindred, gap⟩ | ⟨kindred, arguments, gap⟩ | ⟨kindred⟩)
    · exact .outside kindred gap
    · exact .outside (kindred.append arguments) gap
    · exact .ended kindred
  finish := fun h => .ended h.collected

/-! ## Scans -/

namespace Scan

variable {s : Scan} {seen rest : Text} {c : Char}

/-- A scan with the type arguments of its leading text dropped or kept for good. -/
def resolve (strip : Bool) (s : Scan) : Scan := { s with leading := s.leading.resolve strip }

/-- A step after which the type arguments are resolved. -/
def strideResolving (strip : Bool) : Text.Stride Scan Nat := fun s seen c rest =>
  ((stride s seen c rest).1, (stride s seen c rest).2.resolve strip)

/-- Scans that go side by side with kindred leading texts are the same once they are resolved. -/
theorem Parallel.resolve_eq {t : Scan} (h : s.Parallel Eq (LeadingText.Kindred strip) t) :
    s.resolve strip = t.resolve strip := by
  obtain ⟨htokens, hwithheld⟩ := Prod.mk.inj h.tokens
  simp only [resolve, h.literals, h.groups, htokens, hwithheld, h.leading.resolve_eq]

/-- Resolving before a step makes no difference to what is resolved after it. -/
theorem strideResolving_resolve (h : s.leading.Attached) :
    strideResolving strip (s.resolve strip) seen c rest = strideResolving strip s seen c rest := by
  have hparallel : s.Parallel Eq (LeadingText.Kindred strip) (s.resolve strip) :=
    ⟨rfl, rfl, rfl, h.kindred_resolve⟩
  obtain ⟨hwidth, hnext⟩ := hparallel.stride .eq (.kindred strip) seen c rest
  rw [strideResolving, strideResolving, hwidth, hnext.resolve_eq]

/-- Resolving the type arguments after every step comes to the same as doing it in the end. -/
theorem walk_resolving (strip : Bool) (t : Text) :
    Text.walk id (strideResolving strip) start 0 [] t = (ofText t).resolve strip := by
  have hpath : Text.Path id stride Text.anyStep start [] t [] (ofText t) :=
    Text.path_walk start [] t
  -- The one scan goes on from where the other is, once that is resolved.
  refine (hpath.keeps_split (motive := fun s way rest => s.Attached way.reverse ∧
      Text.walk id (strideResolving strip) start 0 [] t =
        Text.walk id (strideResolving strip) (s.resolve strip) 0 way.reverse rest) ?_ ?_).2
  · rintro s way c more after - - covers ⟨hattached, hwalk⟩
    have hseen : (way ++ c :: more).reverse = more.reverse ++ c :: way.reverse := by simp
    rw [hseen]
    refine ⟨hattached.stride covers, ?_⟩
    rw [hwalk, Text.walk_cons _ _ _ _ rfl, strideResolving_resolve hattached.1]
    change Text.walk id (strideResolving strip) _ 0
      (((more ++ after).take (id (stride s way.reverse c (more ++ after)).1 - 1)).reverse ++ _)
      ((more ++ after).drop (id (stride s way.reverse c (more ++ after)).1 - 1)) = _
    rw [covers, Text.Path.drop_eq_of_take_eq covers]
    rfl
  · exact ⟨attached_start, by rw [List.append_nil]; rfl⟩

end Scan

/-- The shape of a text after a scan that drops its type arguments, or keeps them, as soon as they
close. No choice is left for the shape. -/
def shapeResolving (strip : Bool) (t : Text) : Shape :=
  (Text.walk id (Scan.strideResolving strip) .start 0 [] t).shape true

/-- Type arguments may be dropped or kept as soon as they close. -/
theorem shape_resolving (strip : Bool) (t : Text) :
    shapeResolving strip t = Shape.ofText strip t := by
  have hcollected (l : LeadingText) : (l.resolve strip).collected.render true =
      l.collected.render strip := by
    cases l <;> simp [LeadingText.resolve, LeadingText.collected, LeadingText.giveUp,
      Collected.resolve, Collected.render]
  rw [shapeResolving, Scan.walk_resolving]
  exact congrArg (Shape.mk ((Scan.ofText t).shape strip).sequence) (hcollected _)

end MemberOutline.Shape
