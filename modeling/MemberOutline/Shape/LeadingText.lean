import MemberOutline.Text.Basic

/-!
# Collecting the leading text

The leading text is collected character by character. Blanks are only noted, so that a run of them
becomes one space between two words and none at the ends. Type arguments are collected apart: when
their angle closes they stay apart, so that they can be dropped from the text or kept in it, and
when their `<` turns out to be a comparison they become part of the text around them.
-/

namespace MemberOutline.Shape

/-- A text with the type arguments in it set apart. -/
structure Collected where
  /-- Pieces of text, each with the type arguments right after it. -/
  groups : List (Text × Text)
  /-- The text after the last type arguments. -/
  text : Text
  deriving DecidableEq, Repr

namespace Collected

/-- A text of which nothing is collected yet. -/
def empty : Collected := ⟨[], []⟩

/-- The whole text, without its type arguments or with them. -/
def render (strip : Bool) (c : Collected) : Text :=
  c.groups.flatMap (fun (t, arguments) => if strip then t else t ++ arguments) ++ c.text

end Collected

/-- The leading text while it is collected. A gap says that blanks came after the last character. -/
inductive LeadingText where
  /-- Outside type arguments. -/
  | outside (collected : Collected) (gap : Bool)
  /-- Inside type arguments, which are collected from their `<` on. -/
  | inside (collected : Collected) (arguments : Text) (gap : Bool)
  /-- Complete. -/
  | ended (collected : Collected)
  deriving DecidableEq, Repr

namespace LeadingText

/-- The leading text before the first character. -/
def start : LeadingText := .outside .empty false

/-- A character, with a space before it if there is a gap. -/
def spaced (gap : Bool) (c : Char) : Text := if gap then [' ', c] else [c]

/-- The leading text with one more character. -/
def add (c : Char) : LeadingText → LeadingText
  | .outside collected gap =>
    let gap := gap && collected ≠ .empty
    .outside { collected with text := collected.text ++ spaced gap c } false
  | .inside collected arguments gap => .inside collected (arguments ++ spaced gap c) false
  | .ended collected => .ended collected

/-- The leading text after a blank, or after something that counts as one. -/
def blank : LeadingText → LeadingText
  | .outside collected _ => .outside collected true
  | .inside collected arguments _ => .inside collected arguments true
  | .ended collected => .ended collected

/-- The leading text after the `<` of type arguments. -/
def enter : LeadingText → LeadingText
  | .outside collected _ => .inside collected ['<'] false
  | l => l

/-- The leading text after the `>` of type arguments. -/
def leave : LeadingText → LeadingText
  | .inside collected arguments gap =>
    .outside ⟨collected.groups ++ [(collected.text, arguments ++ spaced gap '>')], []⟩ false
  | l => l.add '>'

/-- The leading text with its type arguments put back into the text: their `<` was a comparison. -/
def giveUp : LeadingText → LeadingText
  | .inside collected arguments gap =>
    .outside { collected with text := collected.text ++ arguments } gap
  | l => l

/-- All that a leading text has collected so far. -/
def collected (l : LeadingText) : Collected :=
  match l.giveUp with
  | .outside collected _ | .inside collected _ _ | .ended collected => collected

/-- The leading text at its end: the first token was reached. -/
def finish (l : LeadingText) : LeadingText := .ended l.collected

end LeadingText

end MemberOutline.Shape
