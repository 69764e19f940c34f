import MemberOutline.Json.Pretty
import MemberOutline.Member.Classify
import MemberOutline.Settings.Basic

/-!
# Reports

The three reports, on one declaration's shape, on one member and on every line of a file, each as
text or as JSON, with the events that come up on the way.
-/

namespace MemberOutline.Report

/-- The event of a scan, if it ended inside a group or a literal. -/
def scanEvents (s : Shape.Scan) : List Event :=
  if s.isComplete then [] else [.endedInside s.groups.length s.literals.head?]

/-- The shape of a declaration with the events of its scan. -/
def scanLogged (strip : Bool) (declaration : Text) : Shape × List Event :=
  let s := Shape.Scan.ofText declaration
  (s.shape strip, scanEvents s)

/-- The member that a declaration declares, with the events of its scan. -/
def classifyLogged (strip : Bool) (declaration : Text) (className : Option Text) :
    Member × List Event :=
  let (shape, events) := scanLogged strip declaration
  (Member.ofShape declaration shape className, events)

/-- A shape as text. -/
def shapeText (s : Shape) : Text :=
  "sequence:     ".toList ++ s.sequence ++ "\nleading text: ".toList ++ s.leadingText

/-- A member as text. -/
def memberText (m : Member) : Text :=
  "kind:      ".toList ++ m.kind.word.toList ++
    "\nname:      ".toList ++ m.name ++
    "\nmodifiers: ".toList ++
      (if m.modifiers = [] then ['-'] else Text.joinWith [' '] m.modifiers) ++
    "\nbody:      ".toList ++ (if m.hasBody then "yes".toList else "no".toList) ++
    "\nlabel:     ".toList ++ m.label ++
    "\nsequence:  ".toList ++ m.shape.sequence

/-- The line of a member in the report on a file. -/
def memberLine (m : Member) : Text :=
  Text.padTo 12 m.kind.word.toList ++ ' ' :: Text.padTo 10 m.shape.sequence ++ ' ' :: m.label

/-- The report on a shape. -/
def ofShape (format : Format) (s : Shape) : Text :=
  match format with
  | .text => shapeText s
  | .json => s.toJson.pretty

/-- The report on a member. -/
def ofMember (format : Format) (m : Member) : Text :=
  match format with
  | .text => memberText m
  | .json => m.toJson.pretty

/-- The report on the members of a file. -/
def ofMembers (format : Format) (members : List Member) : Text :=
  match format with
  | .text => Text.joinWith ['\n'] (members.map memberLine)
  | .json => (Json.array (members.map Member.toJson)).pretty

/-- The report on the shape of one declaration. -/
def scan (declaration : Text) (format : Format) (settings : Settings) : Text × List Event :=
  let (shape, events) := scanLogged settings.stripTypeArguments declaration
  (ofShape format shape, .scanning settings.stripTypeArguments :: events)

/-- The report on the member that one declaration declares. -/
def classify (declaration : Text) (className : Option Text) (format : Format)
    (settings : Settings) : Text × List Event :=
  let (member, events) := classifyLogged settings.stripTypeArguments declaration className
  (ofMember format member, events)

/-- The declarations in a file, one a line: blank lines and lines with a comment only are none. -/
def declarations (content : Text) : List Text :=
  ((Text.lines content).map Text.trim).filter fun line =>
    line ≠ [] && !"//".toList.isPrefixOf line

/-- The members that the lines of a file declare. -/
def members (content : Text) (className : Option Text) (settings : Settings) : List Member :=
  (declarations content).map fun line =>
    Member.ofText settings.stripTypeArguments line className

/-- The events of one line of a file. -/
def lineEvents (className : Option Text) (settings : Settings) (line : Text) : List Event :=
  let (member, events) := classifyLogged settings.stripTypeArguments line className
  events ++ [.classifiedLine line member.kind member.shape.sequence]

/-- The report on every declaration in a file. -/
def batch (path : String) (content : Text) (className : Option Text) (format : Format)
    (settings : Settings) : Text × List Event :=
  let found := members content className settings
  (ofMembers format found,
    (declarations content).flatMap (lineEvents className settings) ++
      [.classifiedAll found.length path])

end MemberOutline.Report
