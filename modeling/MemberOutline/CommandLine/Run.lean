import MemberOutline.Report

/-!
# Running a command

A run reads its arguments, loads the settings, reads the input and writes a report. The first of
these that fails ends it. Everything that it depends on comes from the arguments and the host, and
what the arguments and a settings file mean is left to two readers.
-/

namespace MemberOutline.CommandLine

/-! ## Commands -/

/-- The commands by name. -/
inductive Verb where
  | scan
  | classify
  | batch
  deriving DecidableEq, Repr

/-- Where a declaration comes from: the argument, else the file, else standard input. -/
structure Source where
  declaration : Option Text
  input : Option String
  deriving DecidableEq, Repr

/-- A command of the program with what its arguments say. -/
inductive Command where
  /-- Reports the shape of a declaration. -/
  | scan (source : Source) (format : Option Format) (config : Option String)
      (keepTypeArguments : Bool)
  /-- Reports the member that a declaration declares. -/
  | classify (source : Source) (className : Option Text) (format : Option Format)
      (config : Option String)
  /-- Reports the members that the lines of a file declare. -/
  | batch (input : String) (className : Option Text) (format : Option Format)
      (config : Option String)
  deriving DecidableEq, Repr

/-! ## Failures -/

/-- Why a run ends without a report, with the errors of a reader of settings. -/
inductive Failure (E : Type) where
  /-- The settings file that the arguments name is missing. -/
  | configMissing (path : String)
  /-- The settings file that the arguments name gives no settings. -/
  | configFailed (path : String) (error : Settings.LoadError E)
  /-- The working directory, where a settings file is looked for, is not known. -/
  | directoryUnknown (fault : Fault)
  /-- The settings file of the working directory gives no settings. -/
  | discoveryFailed (directory : String) (error : Settings.LoadError E)
  /-- The input file is missing. -/
  | inputMissing (path : String)
  /-- The input file cannot be read. -/
  | inputFailed (path : String) (fault : Fault)
  /-- Standard input cannot be read. -/
  | standardInputFailed (fault : Fault)
  deriving Repr

namespace Failure

variable {E : Type} [ToString E]

/-- The messages for a failure, from the outermost on. -/
def messages : Failure E → List String
  | .configMissing path => ["Config file not found: " ++ path]
  | .configFailed path e => ("Failed to load config: " ++ path) :: e.messages
  | .directoryUnknown fault => ["Failed to read current directory", fault.message]
  | .discoveryFailed directory e =>
    ("Failed to load " ++ Settings.fileName ++ " from " ++ directory) :: e.messages
  | .inputMissing path => ["Input file not found: " ++ path]
  | .inputFailed path fault => ["Failed to read input file: " ++ path, fault.message]
  | .standardInputFailed fault => ["Failed to read declaration from stdin", fault.message]

/-- A message with every line but the first moved to the right. -/
def indented (width : Nat) (message : String) : String :=
  String.ofList (Text.joinWith ('\n' :: List.replicate width ' ')
    (Text.splitOn '\n' message.toList))

/-- The lines that tell of a failure: the outermost message, then the causes. -/
def lines (failure : Failure E) : List String :=
  match failure.messages with
  | [] => []
  | [headline] => ["Error: " ++ headline]
  | [headline, cause] => ["Error: " ++ headline, "", "Caused by:", "    " ++ indented 4 cause]
  | headline :: causes =>
    ["Error: " ++ headline, "", "Caused by:"] ++
      causes.zipIdx.map fun (cause, i) => s!"    {i}: " ++ indented 7 cause

end Failure

/-! ## Steps of a run -/

section Steps

variable {E : Type} {m : Type → Type} [Monad m]

/-- The settings from the file that is named, or else from the working directory. -/
def settingsFor (read : Text → Except E Settings) (host : Host m) (config : Option String) :
    m (Except (Failure E) Settings × List Event) := do
  match config with
  | some path =>
    if ← host.pathExists path then
      let (result, events) ← Settings.ofFile read host path
      return (result.mapError (.configFailed path), .usingConfig path :: events)
    else return (.error (.configMissing path), [])
  | none =>
    match ← host.workingDirectory with
    | .error fault => return (.error (.directoryUnknown fault), [])
    | .ok directory =>
      let (result, events) ← Settings.ofDirectory read host directory
      return (result.mapError (.discoveryFailed directory), events)

/-- The text of an input file. -/
def readNamed (host : Host m) (path : String) : m (Except (Failure E) Text) := do
  if ← host.pathExists path then
    return (← host.readFile path).mapError (.inputFailed path)
  else return .error (.inputMissing path)

/-- The text of a declaration from where it comes. -/
def Source.read (host : Host m) (source : Source) : m (Except (Failure E) Text) := do
  match source.declaration, source.input with
  | some text, _ => return .ok text
  | none, some path => readNamed host path
  | none, none => return (← host.readInput).mapError .standardInputFailed

/-- The settings file that a command names. -/
def Command.config : Command → Option String
  | .scan _ _ config _ => config
  | .classify _ _ _ config => config
  | .batch _ _ _ config => config

/-- The text that a command works on. -/
def Command.readInput (host : Host m) : Command → m (Except (Failure E) Text)
  | .scan source _ _ _ => source.read host
  | .classify source _ _ _ => source.read host
  | .batch input _ _ _ => readNamed host input

/-- The report that a command gives on a text under the settings loaded. -/
def Command.report (settings : Settings) (text : Text) : Command → Text
  | .scan _ format _ keepTypeArguments =>
    let settings :=
      if keepTypeArguments then { settings with stripTypeArguments := false } else settings
    (Report.scan text (format.getD settings.format) settings).1
  | .classify _ className format _ =>
    (Report.classify text className (format.getD settings.format) settings).1
  | .batch input className format _ =>
    (Report.batch input text className (format.getD settings.format) settings).1

/-- Loads the settings, reads the input and reports. -/
def Command.execute (read : Text → Except E Settings) (host : Host m) (command : Command) :
    m (Except (Failure E) Text) := do
  match (← settingsFor read host command.config).1 with
  | .error failure => return .error failure
  | .ok settings =>
    match ← command.readInput host with
    | .error failure => return .error failure
    | .ok text => return .ok (command.report settings text)

end Steps

/-! ## Runs -/

/-- How a run ends. -/
structure Outcome where
  /-- The exit code: zero for success, one for a failure, two for wrong arguments. -/
  code : Nat
  /-- What is written to standard output. -/
  output : Text
  /-- The lines written to standard error. -/
  errors : List String
  deriving DecidableEq, Repr

/-- How a run ends that gave a report or failed. -/
def Outcome.ofResult {E : Type} [ToString E] : Except (Failure E) Text → Outcome
  | .ok report => ⟨0, report ++ ['\n'], []⟩
  | .error failure => ⟨1, [], failure.lines⟩

/-- How a run reads what a user writes. -/
structure Readers (E : Type) where
  /-- The command that the arguments make, or else how the program ends right away: with the help or
  the version that they ask for, or with what is wrong with them. -/
  command : List String → Except Outcome Command
  /-- The settings that the text of a settings file gives, or else what is wrong with it. -/
  settings : Text → Except E Settings

/-- Runs the program with these arguments. -/
def run {E : Type} [ToString E] {m : Type → Type} [Monad m] (readers : Readers E) (host : Host m)
    (arguments : List String) : m Outcome := do
  match readers.command arguments with
  | .error outcome => return outcome
  | .ok command => return .ofResult (← command.execute readers.settings host)

end MemberOutline.CommandLine
