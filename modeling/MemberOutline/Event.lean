import MemberOutline.Literal.Context
import MemberOutline.Member.Basic
import MemberOutline.Text.Character

/-!
# Events

What a run has to tell beside its answer: a declaration that ended early, the settings in use, the
lines of a batch.
-/

namespace MemberOutline

/-- How much an event matters. -/
inductive Level where
  | debug
  | info
  deriving DecidableEq, Repr

/-- The word for a level. -/
def Level.word : Level → String
  | .debug => "DEBUG"
  | .info => "INFO"

/-- Something that a run tells. -/
inductive Event where
  /-- A declaration ended with groups or a literal open. -/
  | endedInside (groups : Nat) (literal : Option Literal.Context)
  /-- A scan starts with these settings. -/
  | scanning (stripTypeArguments : Bool)
  /-- A line of a batch was classified. -/
  | classifiedLine (line : Text) (kind : Member.Kind) (sequence : Text)
  /-- A batch is done. -/
  | classifiedAll (count : Nat) (path : String)
  /-- A settings file was read. -/
  | loadedSettings (path : String)
  /-- A directory holds no settings file. -/
  | usingDefaults (fileName directory : String)
  /-- A settings file was named. -/
  | usingConfig (path : String)
  deriving DecidableEq, Repr

namespace Event

/-- How much an event matters. -/
def level : Event → Level
  | .classifiedAll .. | .usingConfig .. => .info
  | _ => .debug

/-- The message of an event. -/
def message : Event → String
  | .endedInside groups literal =>
    s!"Declaration ended inside {groups} open group(s), literal state " ++ Literal.describe literal
  | .scanning strip => s!"Scanning with ScannerSettings \x7b strip_type_arguments: {strip} \x7d"
  | .classifiedLine line kind sequence =>
    String.ofList line ++ " -> " ++ kind.word ++ " " ++ String.ofList (Text.quoted sequence)
  | .classifiedAll count path => s!"Classified {count} declarations from " ++ path
  | .loadedSettings path => "Loaded settings from " ++ path
  | .usingDefaults fileName directory =>
    "No " ++ fileName ++ " in " ++ directory ++ ", using defaults"
  | .usingConfig path => "Using config: " ++ path

end Event

end MemberOutline
