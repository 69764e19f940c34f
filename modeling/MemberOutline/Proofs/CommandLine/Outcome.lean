import MemberOutline.CommandLine.Arguments
import MemberOutline.Host.Tree
import MemberOutline.Proofs.CommandLine.Loading

/-!
# How a run ends

A run of a command first loads its settings (`Loads`, `FailsToLoad`) and then reads the one input
that the command selects (`Command.selected`). The first of the two that fails decides how the run
ends, and what was not selected is not asked for. If neither fails, the run ends with the report of
the command under the settings in effect (`run_of_command`).

All of this is about hosts that answer at once, without effects: any set of files, any text on
standard input and any working directory is one of them. It is about any two readers, too: which
arguments make a command, and which texts give settings, is not supposed anywhere.
-/

namespace MemberOutline.CommandLine

variable {E : Type} {read : Text → Except E Settings} {host host' : Host Id}
  {settings : Settings} {failure : Failure E} {command command' : Command} {text : Text}
  {arguments : List String}

/-! ## Reading the input -/

/-- What a run may read. -/
inductive Input where
  /-- The declaration in the arguments. -/
  | declaration (text : Text)
  /-- The text of a file. -/
  | file (path : String)
  /-- What is on standard input. -/
  | standardInput

/-- The text that an input gives; a declaration needs no asking. -/
inductive Input.Gives (host : Host Id) : Input → Text → Prop
  | declaration {text : Text} : Gives host (.declaration text) text
  | file {path : String} {text : Text} (there : host.pathExists path = true)
      (content : host.readFile path = .ok text) : Gives host (.file path) text
  | standardInput {text : Text} (content : host.readInput = .ok text) :
    Gives host .standardInput text

/-- Why an input gives no text: the file is missing or cannot be read, or standard input cannot. -/
inductive Input.Fails (host : Host Id) : Input → Failure E → Prop
  | missing {path : String} (nowhere : host.pathExists path = false) :
    Fails host (.file path) (.inputMissing path)
  | unreadable {path : String} {fault : Fault} (there : host.pathExists path = true)
      (answer : host.readFile path = .error fault) :
    Fails host (.file path) (.inputFailed path fault)
  | standardInput {fault : Fault} (answer : host.readInput = .error fault) :
    Fails host .standardInput (.standardInputFailed fault)

/-- The declaration in the arguments comes first, then the file that is named, then standard
input. -/
def Source.selected (source : Source) : Input :=
  match source.declaration, source.input with
  | some text, _ => .declaration text
  | none, some path => .file path
  | none, none => .standardInput

/-- The one input that a command reads. -/
def Command.selected : Command → Input
  | .scan source _ _ _ | .classify source _ _ _ => source.selected
  | .batch path _ _ _ => .file path

/-- What comes of reading an input. -/
def Input.answer (host : Host Id) : Input → Except (Failure E) Text
  | .declaration text => .ok text
  | .file path => Id.run (readNamed host path)
  | .standardInput => (Id.run host.readInput).mapError .standardInputFailed

/-- A command reads the input that it selects and no other. -/
theorem readInput_eq (host : Host Id) (command : Command) :
    Id.run (command.readInput host) = (command.selected.answer host : Except (Failure E) Text) := by
  have hsource (source : Source) :
      Id.run (source.read host) = (source.selected.answer host : Except (Failure E) Text) := by
    obtain ⟨declaration, input⟩ := source
    cases declaration with
    | some text => rfl
    | none => cases input <;> rfl
  cases command with
  | scan source => exact hsource source
  | classify source => exact hsource source
  | batch path => rfl

/-- What comes of reading a file that is named. -/
theorem readNamed_eq (host : Host Id) (path : String) :
    Id.run (readNamed host path) =
      bif host.pathExists path then (host.readFile path).mapError (.inputFailed path)
      else (.error (.inputMissing path) : Except (Failure E) Text) := by
  unfold readNamed
  cases host.pathExists path <;> rfl

/-- Reading an input that gives a text yields this text. -/
theorem Input.Gives.answer_eq {input : Input} (h : input.Gives host text) :
    (input.answer host : Except (Failure E) Text) = .ok text := by
  cases h with
  | declaration => rfl
  | file there content =>
    rw [Input.answer, readNamed_eq, there, content]
    rfl
  | standardInput content =>
    rw [Input.answer, content]
    rfl

/-- Reading an input that fails yields the reason why. -/
theorem Input.Fails.answer_eq {input : Input} (h : input.Fails host failure) :
    input.answer host = .error failure := by
  cases h with
  | missing nowhere =>
    rw [Input.answer, readNamed_eq, nowhere]
    rfl
  | unreadable there answer =>
    rw [Input.answer, readNamed_eq, there, answer]
    rfl
  | standardInput answer =>
    rw [Input.answer, answer]
    rfl

/-- An input gives a text, or there is a reason why it does not. -/
theorem gives_or_fails (host : Host Id) (input : Input) :
    (∃ text, input.Gives host text) ∨ ∃ failure : Failure E, input.Fails host failure := by
  cases input with
  | declaration text => exact .inl ⟨text, .declaration⟩
  | file path =>
    cases there : host.pathExists path with
    | false => exact .inr ⟨_, .missing there⟩
    | true =>
      cases answer : host.readFile path with
      | ok text => exact .inl ⟨text, .file there answer⟩
      | error fault => exact .inr ⟨_, .unreadable there answer⟩
  | standardInput =>
    cases answer : host.readInput with
    | ok text => exact .inl ⟨text, .standardInput answer⟩
    | error fault => exact .inr ⟨_, .standardInput answer⟩

/-! ## What a report depends on -/

/-- Which of the three commands of the program a command line gives. -/
def Command.verb : Command → Verb
  | .scan .. => .scan
  | .classify .. => .classify
  | .batch .. => .batch

/-- The class name that a command is given. -/
def Command.className? : Command → Option Text
  | .scan .. => none
  | .classify _ className _ _ | .batch _ className _ _ => className

/-- The settings that take effect: the format of the command comes before that of the settings, and
the command can keep the type arguments. -/
def Command.effective (settings : Settings) : Command → Settings
  | .scan _ format _ keepTypeArguments =>
    { stripTypeArguments := if keepTypeArguments then false else settings.stripTypeArguments
      format := format.getD settings.format }
  | .classify _ _ format _ | .batch _ _ format _ =>
    { settings with format := format.getD settings.format }

/-- The report that a command of this name gives on a text, with this class name and these settings
in effect. The file name on which it was read shows in no report, only in its events. -/
def Verb.report (effective : Settings) (className : Option Text) (text : Text) : Verb → Text
  | .scan => (Report.scan text effective.format effective).1
  | .classify => (Report.classify text className effective.format effective).1
  | .batch => (Report.batch "" text className effective.format effective).1

/-- A report depends on the command only by its name and the class name, and on the settings only by
those in effect. -/
theorem report_eq (settings : Settings) (text : Text) (command : Command) :
    command.report settings text =
      command.verb.report (command.effective settings) command.className? text := by
  cases command with
  | scan _ _ _ keepTypeArguments => cases keepTypeArguments <;> rfl
  | classify => rfl
  | batch => rfl

/-! ## What a command comes to -/

/-- A command fails for the reason why its settings fail to load. -/
theorem execute_of_failsToLoad (h : FailsToLoad read host command.config failure) :
    Id.run (command.execute read host) = .error failure := by
  have hloaded : (Id.run (settingsFor read host command.config)).1 = .error failure :=
    loaded_of_failsToLoad h
  unfold Command.execute
  rw [Id.run_bind, hloaded]
  rfl

/-- Once its settings are loaded, a command does with its input what comes of reading that. -/
theorem execute_eq_of_loads (h : Loads read host command.config settings) :
    Id.run (command.execute read host) =
      (command.selected.answer host).map (command.report settings) := by
  have hloaded : (Id.run (settingsFor read host command.config)).1 = .ok settings :=
    loaded_of_loads h
  unfold Command.execute
  rw [Id.run_bind, hloaded]
  simp only
  rw [Id.run_bind, readInput_eq]
  cases (command.selected.answer host : Except (Failure E) Text) <;> rfl

/-- A command whose settings load fails for the reason why its input cannot be had. -/
theorem execute_of_fails (hloads : Loads read host command.config settings)
    (hfails : command.selected.Fails host failure) :
    Id.run (command.execute read host) = .error failure := by
  rw [execute_eq_of_loads hloads, hfails.answer_eq]
  rfl

/-- A command whose settings load and whose input gives a text reports on this text. -/
theorem execute_of_gives (hloads : Loads read host command.config settings)
    (hgives : command.selected.Gives host text) :
    Id.run (command.execute read host) =
      .ok (command.verb.report (command.effective settings) command.className? text) := by
  rw [execute_eq_of_loads hloads, hgives.answer_eq, ← report_eq]
  rfl

/-- The command without the name of an input file. -/
def Command.withoutInput : Command → Command
  | .scan source format config keepTypeArguments =>
    .scan { source with input := none } format config keepTypeArguments
  | .classify source className format config =>
    .classify { source with input := none } className format config
  | .batch path className format config => .batch path className format config

/-- Nothing but the name of its input file changes when that is left out of a command. -/
theorem withoutInput_spec (command : Command) :
    command.withoutInput.config = command.config ∧
      (∀ settings text,
        command.withoutInput.report settings text = command.report settings text) ∧
      ∀ text, command.withoutInput.selected = .declaration text ↔
        command.selected = .declaration text := by
  have hsource (source : Source) (text : Text) :
      ({ source with input := none } : Source).selected = .declaration text ↔
        source.selected = .declaration text := by
    obtain ⟨declaration, input⟩ := source
    cases declaration with
    | some text' => exact Iff.rfl
    | none =>
      -- Without a declaration nothing selects one.
      cases input <;> constructor <;> intro h <;> cases h
  cases command with
  | scan source => exact ⟨rfl, fun _ _ => rfl, hsource source⟩
  | classify source => exact ⟨rfl, fun _ _ => rfl, hsource source⟩
  | batch path => exact ⟨rfl, fun _ _ => rfl, fun _ => Iff.rfl⟩

/-- A command on a declaration in the arguments does the same whatever input file is named and
wherever the settings are the same. -/
theorem execute_of_declaration (selected : command.selected = .declaration text)
    (same : command'.withoutInput = command.withoutInput)
    (settings : SameSettings host host' command.config) :
    Id.run (command'.execute read host') = Id.run (command.execute read host) := by
  obtain ⟨hconfig, hreport, hselected⟩ := withoutInput_spec command
  obtain ⟨hconfig', hreport', hselected'⟩ := withoutInput_spec command'
  rw [same] at hconfig' hreport' hselected'
  have sameConfig : command'.config = command.config := hconfig'.symm.trans hconfig
  have selected' : command'.selected = .declaration text :=
    (hselected' text).1 ((hselected text).2 selected)
  have hloaded : loaded read host' command'.config = loaded read host command.config := by
    rw [sameConfig, settings.loaded_eq]
  rcases loads_or_failsToLoad read host command.config with
    ⟨settings, hloads⟩ | ⟨failure, hfails⟩
  · have hloads' : Loads read host' command'.config settings := by
      rw [← loaded_eq_ok_iff, hloaded, loaded_of_loads hloads]
    calc
      _ = .ok (command'.report settings text) := by
        rw [execute_eq_of_loads hloads', selected']
        rfl
      _ = .ok (command.report settings text) := by rw [← hreport', hreport]
      _ = _ := by
        rw [execute_eq_of_loads hloads, selected]
        rfl
  · have hfails' : FailsToLoad read host' command'.config failure := by
      rw [← loaded_eq_error_iff, hloaded, loaded_of_failsToLoad hfails]
    rw [execute_of_failsToLoad hfails', execute_of_failsToLoad hfails]

/-! ## Runs -/

variable [ToString E] {readers : Readers E}

/-- How the program ends when its arguments make a command. -/
theorem run_eq (h : readers.command arguments = .ok command) (host : Host Id) :
    Id.run (run readers host arguments) =
      .ofResult (Id.run (command.execute readers.settings host)) := by
  unfold run
  rw [h]
  rfl

/-- A run fails with the reason why its settings fail to load. -/
theorem run_of_failsToLoad (h : readers.command arguments = .ok command)
    (hfails : FailsToLoad readers.settings host command.config failure) :
    Id.run (run readers host arguments) = ⟨1, [], failure.lines⟩ := by
  rw [run_eq h, execute_of_failsToLoad hfails]
  rfl

/-- A run whose settings load fails with the reason why its input cannot be had. -/
theorem run_of_fails (h : readers.command arguments = .ok command)
    (hloads : Loads readers.settings host command.config settings)
    (hfails : command.selected.Fails host failure) :
    Id.run (run readers host arguments) = ⟨1, [], failure.lines⟩ := by
  rw [run_eq h, execute_of_fails hloads hfails]
  rfl

/-- A run whose settings load and whose input gives a text ends with the report on it. -/
theorem run_of_gives (h : readers.command arguments = .ok command)
    (hloads : Loads readers.settings host command.config settings)
    (hgives : command.selected.Gives host text) :
    Id.run (run readers host arguments) =
      ⟨0, command.verb.report (command.effective settings) command.className? text ++ ['\n'],
        []⟩ := by
  rw [run_eq h, execute_of_gives hloads hgives]
  rfl

/-- A run whose arguments make a command ends in one of two ways. Either the settings load, the
input gives a text, and the run writes the report on it and a line break, with exit code zero; or
one of the two fails and the run writes nothing but the messages on that, with exit code one.

* If the settings fail to load, it ends with that failure, whatever input there is.
* If the settings load, it fails exactly if the input that is selected cannot be had.
* With a declaration in the arguments the outcome is the same whatever input file is named, whatever
  the files contain that are not the settings file, and whatever is on standard input.
* The report depends on nothing but the text selected, the name of the command, the class name and
  the settings in effect. -/
theorem run_of_command (h : readers.command arguments = .ok command) (host : Host Id) :
    ((∃ settings text, Loads readers.settings host command.config settings ∧
          command.selected.Gives host text ∧
          Id.run (run readers host arguments) =
            ⟨0, command.verb.report (command.effective settings) command.className? text ++ ['\n'],
              []⟩) ∨
        ∃ failure : Failure E,
          (FailsToLoad readers.settings host command.config failure ∨
            command.selected.Fails host failure) ∧
          Id.run (run readers host arguments) = ⟨1, [], failure.lines⟩) ∧
      (∀ failure, FailsToLoad readers.settings host command.config failure →
        ∀ host', SameSettings host host' command.config →
          Id.run (run readers host' arguments) = ⟨1, [], failure.lines⟩) ∧
      ((∀ failure, ¬ FailsToLoad readers.settings host command.config failure) →
        ((Id.run (run readers host arguments)).code = 1 ↔
          ∃ failure : Failure E, command.selected.Fails host failure)) ∧
      (∀ text, command.selected = .declaration text →
        ∀ host' arguments' command', readers.command arguments' = .ok command' →
          command'.withoutInput = command.withoutInput →
          SameSettings host host' command.config →
          Id.run (run readers host' arguments') = Id.run (run readers host arguments)) ∧
      ∀ (readers' : Readers E) host' arguments' command' settings settings' text,
        readers'.command arguments' = .ok command' →
        Loads readers.settings host command.config settings →
        Loads readers'.settings host' command'.config settings' →
        command.selected.Gives host text → command'.selected.Gives host' text →
        command.verb = command'.verb → command.className? = command'.className? →
        command.effective settings = command'.effective settings' →
        Id.run (run readers host arguments) = Id.run (run readers' host' arguments') := by
  refine ⟨?_, fun failure hfails host' same => ?_, fun hnone => ?_,
    fun text selected host' arguments' command' h' same settings => ?_,
    fun readers' host' arguments' command' settings settings' text h' hloads hloads' hgives hgives'
      verb className effective => ?_⟩
  · rcases loads_or_failsToLoad readers.settings host command.config with
      ⟨settings, hloads⟩ | ⟨failure, hfails⟩
    · rcases gives_or_fails host command.selected with ⟨text, hgives⟩ | ⟨failure, hfails⟩
      · exact .inl ⟨settings, text, hloads, hgives, run_of_gives h hloads hgives⟩
      · exact .inr ⟨failure, .inr hfails, run_of_fails h hloads hfails⟩
    · exact .inr ⟨failure, .inl hfails, run_of_failsToLoad h hfails⟩
  · have hfails' : FailsToLoad readers.settings host' command.config failure := by
      rwa [← loaded_eq_error_iff, ← same.loaded_eq, loaded_eq_error_iff]
    exact run_of_failsToLoad h hfails'
  · -- Nothing is wrong with the settings, so the input decides.
    obtain ⟨settings, hloads⟩ | ⟨failure, hfails⟩ :=
      loads_or_failsToLoad readers.settings host command.config
    · refine ⟨fun hcode => ?_, fun ⟨failure, hfails⟩ => by rw [run_of_fails h hloads hfails]⟩
      obtain ⟨text, hgives⟩ | hfails := gives_or_fails host command.selected
      · rw [run_of_gives h hloads hgives] at hcode
        exact absurd hcode Nat.zero_ne_one
      · exact hfails
    · exact absurd hfails (hnone failure)
  · rw [run_eq h, run_eq h', execute_of_declaration selected same settings]
  · rw [run_of_gives h hloads hgives, run_of_gives h' hloads' hgives', verb, className, effective]

/-- A directory without a settings file, and no text on standard input. -/
def bareTree : FileTree := ⟨"/a", [], [], none⟩

/-- A settings file that asks for JSON. -/
def jsonSettings : Text := "[output]\nformat = \"json\"".toList

/-- A directory whose settings file asks for JSON, and no text on standard input. -/
def jsonTree : FileTree := ⟨"/a", [(["dartshape.toml".toList], some jsonSettings)], [], none⟩

/-- Four runs of the program: a scan of a declaration without a settings file, the same with an
input file named that is not there, the same with a settings file, and a run that names a settings
file that is not there. -/
theorem run_of_command_scan :
    Id.run (run programReaders bareTree.host ["scan", "int a;"]) =
        ⟨0, "sequence:     ;\nleading text: int a\n".toList, []⟩ ∧
      Id.run (run programReaders bareTree.host ["scan", "int a;", "-i", "b"]) =
        Id.run (run programReaders bareTree.host ["scan", "int a;"]) ∧
      Loads programReaders.settings jsonTree.host none { format := .json } ∧
      Id.run (run programReaders jsonTree.host ["scan", "int a;"]) =
        ⟨0, "\x7b\n  \"sequence\": \";\",\n  \"leadingText\": \"int a\"\n\x7d\n".toList, []⟩ ∧
      FailsToLoad programReaders.settings bareTree.host (some "c") (.configMissing "c") ∧
      Id.run (run programReaders bareTree.host ["classify", "-c", "c"]) =
        ⟨1, [], ["Error: Config file not found: c"]⟩ := by
  have hplain : programReaders.command ["scan", "int a;"] =
      .ok (.scan ⟨some "int a;".toList, none⟩ none none false) := by rfl
  have hinput : programReaders.command ["scan", "int a;", "-i", "b"] =
      .ok (.scan ⟨some "int a;".toList, some "b"⟩ none none false) := by rfl
  have hnamed : programReaders.command ["classify", "-c", "c"] =
      .ok (.classify ⟨none, none⟩ none none (some "c")) := by rfl
  have hdefaults : Loads programReaders.settings bareTree.host none {} := .absent rfl (by rfl)
  have hvalid : programReaders.settings jsonSettings = .ok { format := .json } := by
    have hread : (programReaders.settings jsonSettings).toOption = some { format := .json } := by
      decide +kernel
    cases h : programReaders.settings jsonSettings with
    | ok settings =>
      rw [h] at hread
      rw [Option.some.inj hread]
    | error e =>
      rw [h] at hread
      cases hread
  have hjson : Loads programReaders.settings jsonTree.host none { format := .json } :=
    .discovered rfl (by rfl) ⟨jsonSettings, by rfl, hvalid⟩
  have hmissing : FailsToLoad programReaders.settings bareTree.host (some "c")
      (.configMissing "c") := .missing (by rfl)
  refine ⟨?_, ?_, hjson, ?_, hmissing, ?_⟩
  · obtain ⟨⟨settings, text, hloads, hgives, hrun⟩ | ⟨failure, hfails | hfails, -⟩, -⟩ :=
      run_of_command hplain bareTree.host
    · cases hgives
      rw [hrun, hloads.unique hdefaults]
      decide
    · exact absurd hfails hdefaults.not_failsToLoad
    · cases hfails
  · obtain ⟨-, -, -, hdeclaration, -⟩ := run_of_command hplain bareTree.host
    exact hdeclaration _ rfl bareTree.host _ _ hinput rfl
      (.discovered rfl (fun _ _ => rfl) fun _ _ => rfl)
  · obtain ⟨⟨settings, text, hloads, hgives, hrun⟩ | ⟨failure, hfails | hfails, -⟩, -⟩ :=
      run_of_command hplain jsonTree.host
    · cases hgives
      rw [hrun, hloads.unique hjson]
      decide
    · exact absurd hfails hjson.not_failsToLoad
    · cases hfails
  · obtain ⟨-, hsettings, -⟩ := run_of_command hnamed bareTree.host
    exact hsettings _ hmissing bareTree.host (.named rfl rfl)

end MemberOutline.CommandLine
