import MemberOutline.Literal.Step
import MemberOutline.Shape.Group
import MemberOutline.Shape.LeadingText
import MemberOutline.Text.Walk

/-!
# Scanning a declaration

The shape of a class-member declaration is what a scan finds in it: the structural tokens outside
all brackets, and the text before the first of them.

A scan walks through a declaration once. A literal counts as a blank. Of the code characters, the
tokens `=`, `==`, `=>` and `;` are reported at depth zero, and so are an opener that takes the depth
from zero to one and the closer that takes it back; a closer that does not match the innermost group
is passed over. The round brackets right inside type arguments are withheld: they are forgotten when
the angle closes at depth zero, and reported when its `<` turns out to be a comparison. The first
token ends the leading text.
-/

namespace MemberOutline

/-- The structural fingerprint of a declaration and the text that labels it. -/
structure Shape where
  /-- The tokens at depth zero in order, such as `()=>;`. -/
  sequence : Text
  /-- The text before the first of them, with single spaces between its words. -/
  leadingText : Text
  deriving DecidableEq, Repr

namespace Shape

/-- Where a scan stands. -/
structure Scan where
  /-- The literal contexts that are open. -/
  literals : Literal.Stack
  /-- The groups that are open, innermost first. -/
  groups : List Group
  /-- The tokens reported. -/
  tokens : Text
  /-- The tokens withheld. -/
  withheld : Text
  /-- The leading text. -/
  leading : LeadingText
  deriving DecidableEq, Repr

namespace Scan

/-- The scan before the first character. -/
def start : Scan := ⟨[], [], [], [], .start⟩

/-- Whether groups are open and all of them are angles. -/
def onlyAngles (groups : List Group) : Bool := groups ≠ [] && groups.all (· = .angle)

/-- Gives up the angles on top. If nothing else was open, their `<` was a comparison: what it
withheld is reported and its text belongs to the leading text. -/
def giveUpAngles (s : Scan) : Scan :=
  match s.groups.dropWhile (· = .angle) with
  | [] =>
    { s with
      groups := []
      tokens := s.tokens ++ s.withheld
      withheld := []
      leading := s.leading.giveUp }
  | groups => { s with groups := groups }

/-- Gives up the angles on top at a character that they cannot hold. -/
def settle (s : Scan) (c : Char) : Scan :=
  if s.groups.head? = some .angle ∧ ¬ argumentsHold c then s.giveUpAngles else s

/-- Reports a token at depth zero. -/
def report (s : Scan) (token : Text) : Scan :=
  if s.groups = [] then { s with tokens := s.tokens ++ token, leading := s.leading.finish } else s

/-- The token that an `=` starts before these characters. -/
def equalsToken (rest : Text) : Text :=
  match rest.head? with
  | some '=' => ['=', '=']
  | some '>' => ['=', '>']
  | _ => ['=']

/-- Opens a group: its opener is a token at depth zero and withheld right inside angles. -/
def openGroup (s : Scan) (c : Char) (g : Group) : Scan :=
  if s.groups = [] then { s.report [c] with groups := [g] }
  else
    { s with
      groups := g :: s.groups
      withheld := if onlyAngles s.groups then s.withheld ++ [c] else s.withheld
      leading := s.leading.add c }

/-- Closes the innermost group, with its closer as a token in the place where its opener was one. -/
def closeInnermost (s : Scan) (c : Char) : Scan :=
  match s.groups.tail with
  | [] => { s with groups := [], tokens := s.tokens ++ [c] }
  | groups =>
    { s with
      groups := groups
      withheld := if onlyAngles groups then s.withheld ++ [c] else s.withheld }

/-- Closes a group if it is the innermost one without the angles on top, which are given up. -/
def closeGroup (s : Scan) (c : Char) (g : Group) : Scan :=
  let s := s.giveUpAngles
  let s := if s.groups.head? = some g then s.closeInnermost c else s
  { s with leading := s.leading.add c }

/-- Opens type arguments. -/
def openAngle (s : Scan) : Scan :=
  { s with
    groups := .angle :: s.groups
    leading := if s.groups = [] then s.leading.enter else s.leading.add '<' }

/-- Closes type arguments; at depth zero what they withheld is forgotten. -/
def closeAngle (s : Scan) : Scan :=
  match s.groups.tail with
  | [] => { s with groups := [], withheld := [], leading := s.leading.leave }
  | groups => { s with groups := groups, leading := s.leading.add '>' }

/-- Takes up a character that is neither a token nor part of a group. -/
def plain (s : Scan) (c : Char) : Scan :=
  { s with leading := if Text.isBlank c then s.leading.blank else s.leading.add c }

/-- A code character, once the angles are settled, between those before it, the nearest first, and
those after it. The answer is the number of characters covered. -/
def code (s : Scan) (seen : Text) (c : Char) (rest : Text) : Nat × Scan :=
  if c = '=' then ((equalsToken rest).length, s.report (equalsToken rest))
  else if c = ';' then (1, s.report [';'])
  else
    match Group.ofOpener? c, Group.ofCloser? c with
    | some g, _ => (1, s.openGroup c g)
    | none, some g => (1, s.closeGroup c g)
    | none, none =>
      if c = '<' ∧ opensArguments seen then (1, s.openAngle)
      else if c = '>' ∧ s.groups.head? = some .angle then (1, s.closeAngle)
      else (1, s.plain c)

/-- One step: a literal counts as a blank, anything else is code. -/
def stride : Text.Stride Scan Nat := fun s seen c rest =>
  match Literal.step s.literals seen.head? c rest with
  | (.consumed width, literals) =>
    (width, { s with literals := literals, leading := s.leading.blank })
  | (.code, literals) => ({ s with literals := literals }.settle c).code seen c rest

/-- The scan at the end of a declaration. -/
def ofText (t : Text) : Scan := Text.walk id stride start 0 [] t

/-- The shape found. A `<` still open was a comparison, so what it withheld is reported. -/
def shape (strip : Bool) (s : Scan) : Shape where
  sequence := if onlyAngles s.groups then s.tokens ++ s.withheld else s.tokens
  leadingText := s.leading.collected.render strip

/-- Whether the declaration ended outside all groups and literals. -/
def isComplete (s : Scan) : Bool := s.groups = [] && s.literals = []

end Scan

/-- The shape of a declaration, with the type arguments dropped from its leading text or kept. -/
def ofText (strip : Bool) (t : Text) : Shape := (Scan.ofText t).shape strip

end Shape

end MemberOutline
