import MemberOutline.Event
import MemberOutline.Host.Basic

/-!
# Settings

What a user may choose: whether type arguments are dropped from the leading text, and the form of a
report. The defaults drop them and report as text.

Settings are read from a file that is named, or from the file `dartshape.toml` of a directory, which
may be missing. How a text gives settings is left to a reader, and so is what it has to say of a
text that gives none.
-/

namespace MemberOutline

/-- The form of a report. -/
inductive Format where
  | text
  | json
  deriving DecidableEq, Repr

/-- The word for a form. -/
def Format.word : Format → String
  | .text => "text"
  | .json => "json"

/-- The form that a word names. -/
def Format.ofWord? (word : String) : Option Format :=
  if word = "text" then some .text else if word = "json" then some .json else none

/-- The user's choices. -/
structure Settings where
  /-- Whether type arguments at depth zero are dropped from the leading text. -/
  stripTypeArguments : Bool := true
  /-- The form of reports when the command line names none. -/
  format : Format := .text
  deriving DecidableEq, Repr

namespace Settings

/-- The name of the settings file that a directory may have. -/
def fileName : String := "dartshape.toml"

/-- Why a file gives no settings, with the errors of a reader. -/
inductive LoadError (E : Type) where
  /-- Its text cannot be had. -/
  | unreadable (fault : Fault)
  /-- Its text gives no settings. -/
  | invalid (error : E)
  deriving Repr

variable {E : Type}

/-- The messages for a file that gives no settings, from the outermost on. -/
def LoadError.messages [ToString E] : LoadError E → List String
  | .unreadable fault => ["IO error: " ++ fault.message, fault.message]
  | .invalid error => ["Invalid configuration: " ++ toString error, toString error]

/-- The settings that a text gives, read from a file of this name. -/
def ofContent (read : Text → Except E Settings) (path : String) (content : Except Fault Text) :
    Except (LoadError E) Settings × List Event :=
  match content with
  | .error fault => (.error (.unreadable fault), [])
  | .ok text =>
    match read text with
    | .error error => (.error (.invalid error), [])
    | .ok settings => (.ok settings, [.loadedSettings path])

variable {m : Type → Type} [Monad m]

/-- The settings in a file. -/
def ofFile (read : Text → Except E Settings) (host : Host m) (path : String) :
    m (Except (LoadError E) Settings × List Event) := do
  return ofContent read path (← host.readFile path)

/-- The settings in the settings file of a directory, or the defaults if it has none. -/
def ofDirectory (read : Text → Except E Settings) (host : Host m) (directory : String) :
    m (Except (LoadError E) Settings × List Event) := do
  let path := joinPath directory fileName
  if ← host.isFile path then ofFile read host path
  else return (.ok {}, [.usingDefaults fileName directory])

end Settings

end MemberOutline
