import MemberOutline.CommandLine.Run
import MemberOutline.Settings.Schema

/-!
# Arguments

The three commands and their options. An option takes its value from the same argument or from the
next one, which may not look like an option. Each option is given once, and a lone `--` makes all
that follows positional.
-/

namespace MemberOutline.CommandLine

/-- What the arguments ask for. -/
inductive Request where
  | run (command : Command)
  | version
  | help
  deriving DecidableEq, Repr

/-- The command that a word names. -/
def Verb.ofWord? (word : String) : Option Verb :=
  if word = "scan" then some .scan
  else if word = "classify" then some .classify
  else if word = "batch" then some .batch
  else none

/-- The options that take a value. -/
inductive OptionKey where
  | input
  | className
  | format
  | config
  deriving DecidableEq, Repr

/-- Whether a command has an option. -/
def Verb.has (verb : Verb) (key : OptionKey) : Bool :=
  match verb, key with
  | .scan, .className => false
  | .batch, .input => false
  | _, _ => true

/-- The option with a long name. -/
def OptionKey.ofLong? (name : Text) : Option OptionKey :=
  if name = "input".toList then some .input
  else if name = "class".toList then some .className
  else if name = "format".toList then some .format
  else if name = "config".toList then some .config
  else none

/-- The option with a short name. -/
def OptionKey.ofShort? (c : Char) : Option OptionKey :=
  if c = 'i' then some .input
  else if c = 'f' then some .format
  else if c = 'c' then some .config
  else none

/-- What the arguments so far have given. -/
structure Given where
  positional : Option Text := none
  input : Option Text := none
  className : Option Text := none
  format : Option Format := none
  config : Option Text := none
  keepTypeArguments : Bool := false
  deriving DecidableEq, Repr

/-- Gives an option a value, unless it has one already or may not have this one. -/
def Given.set (given : Given) (key : OptionKey) (value : Text) : Option Given :=
  match key with
  | .input => if given.input.isSome ∨ value = [] then none else some { given with input := value }
  | .config =>
    if given.config.isSome ∨ value = [] then none else some { given with config := value }
  | .className =>
    if given.className.isSome then none else some { given with className := some value }
  | .format =>
    if given.format.isSome then none
    else (Format.ofWord? (String.ofList value)).map fun f => { given with format := some f }

/-- Gives the positional argument, unless there is one already or it should name a file and is
empty. -/
def Given.setPositional (verb : Verb) (given : Given) (value : Text) : Option Given :=
  if given.positional.isSome ∨ verb = .batch ∧ value = [] then none
  else some { given with positional := some value }

/-- Whether an argument may be the value of the option before it. -/
def isValue (argument : Text) : Bool := argument.head? ≠ some '-' || argument = ['-']

/-- How far an argument goes by itself. -/
inductive Progress where
  /-- It is complete. -/
  | done (given : Given)
  /-- The next argument is the value of this option. -/
  | wants (key : OptionKey)
  /-- All that follows is positional. -/
  | positionalFromHere
  /-- It asks for help. -/
  | help
  /-- It is wrong. -/
  | wrong

/-- The progress by an argument that was accepted or not. -/
def Progress.ofGiven : Option Given → Progress
  | some given => .done given
  | none => .wrong

/-- Reads a long option without its dashes. -/
def readLong (verb : Verb) (given : Given) (argument : Text) : Progress :=
  let name := argument.takeWhile (· ≠ '=')
  match argument.drop name.length with
  | [] =>
    if name = [] then .positionalFromHere
    else if name = "help".toList then .help
    else if name = "keep-type-arguments".toList ∧ verb = .scan ∧ ¬ given.keepTypeArguments then
      .done { given with keepTypeArguments := true }
    else
      match OptionKey.ofLong? name with
      | some key => if verb.has key then .wants key else .wrong
      | none => .wrong
  | _ :: value =>
    match OptionKey.ofLong? name with
    | some key => if verb.has key then .ofGiven (given.set key value) else .wrong
    | none => .wrong

/-- Reads a short option without its dash. -/
def readShort (verb : Verb) (given : Given) (c : Char) (rest : Text) : Progress :=
  if c = 'h' then .help
  else
    match OptionKey.ofShort? c with
    | none => .wrong
    | some key =>
      if !verb.has key then .wrong
      else
        match rest with
        | [] => .wants key
        | '=' :: value => .ofGiven (given.set key value)
        | value => .ofGiven (given.set key value)

/-- Reads one argument. -/
def readArgument (verb : Verb) (given : Given) (argument : Text) : Progress :=
  match argument with
  | '-' :: '-' :: long => readLong verb given long
  | '-' :: c :: rest => readShort verb given c rest
  | _ => .ofGiven (given.setPositional verb argument)

/-- The command that the arguments of a verb make. -/
def command? (verb : Verb) (given : Given) : Option Command :=
  let config := given.config.map String.ofList
  let source : Source := ⟨given.positional, given.input.map String.ofList⟩
  match verb with
  | .scan => some (.scan source given.format config given.keepTypeArguments)
  | .classify => some (.classify source given.className given.format config)
  | .batch =>
    given.positional.map fun path =>
      .batch (String.ofList path) given.className given.format config

/-- What the arguments of a command ask for, after those that gave this. -/
def readArguments (verb : Verb) (given : Given) : List Text → Option Request
  | [] => (command? verb given).map .run
  | argument :: rest =>
    match readArgument verb given argument with
    | .done given => readArguments verb given rest
    | .wants key =>
      match rest with
      | value :: more =>
        if isValue value then
          match given.set key value with
          | some given => readArguments verb given more
          | none => none
        else none
      | [] => none
    | .positionalFromHere =>
      (rest.foldlM (Given.setPositional verb) given).bind fun given =>
        (command? verb given).map .run
    | .help => some .help
    | .wrong => none

/-- Whether the words after `help` name nothing or one command. -/
def helpTopic : List String → Bool
  | [] => true
  | [word] => (Verb.ofWord? word).isSome || word = "help"
  | _ => false

/-- What the arguments ask for, if they ask for anything. -/
def request? : List String → Option Request
  | [] => none
  | first :: rest =>
    match Verb.ofWord? first with
    | some verb => readArguments verb {} (rest.map String.toList)
    | none =>
      if first = "--version" ∨ "-V".toList.isPrefixOf first.toList then some .version
      else if first = "--help" ∨ "-h".toList.isPrefixOf first.toList then some .help
      else if first = "help" ∧ helpTopic rest then some .help
      else none

/-- The line that tells the version. -/
def versionLine : Text := "dartshape 0.1.0\n".toList

/-- How to use the program. -/
def usage : String :=
  "Usage: dartshape scan [DECLARATION] [--input FILE] [--format text|json] [--config FILE] " ++
    "[--keep-type-arguments]\n" ++
    "       dartshape classify [DECLARATION] [--input FILE] [--class NAME] " ++
    "[--format text|json] [--config FILE]\n" ++
    "       dartshape batch INPUT [--class NAME] [--format text|json] [--config FILE]"

/-- The command that arguments make, or how the program ends without one. -/
def readCommand (arguments : List String) : Except Outcome Command :=
  match request? arguments with
  | some (.run command) => .ok command
  | some .version => .error ⟨0, versionLine, []⟩
  | some .help => .error ⟨0, usage.toList ++ ['\n'], []⟩
  | none => .error ⟨2, [], [usage]⟩

/-- The readers of the program. -/
def programReaders : Readers Settings.ReadError := ⟨readCommand, Settings.ofToml⟩

end MemberOutline.CommandLine
