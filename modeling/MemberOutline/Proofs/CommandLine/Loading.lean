import MemberOutline.CommandLine.Run

/-!
# Loading the settings of a run

The settings of a run are those in the file that is named, those in the settings file of the working
directory, or the defaults (`Loads`); or else there is a reason why there are none (`FailsToLoad`).
One of the two is always the case (`loads_or_failsToLoad`), and which one follows from what the host
says of the one file that the settings are looked for in (`SameSettings.loaded_eq`).

Which settings a text gives, and which texts give none, is up to a function `read`, of which nothing
is supposed.
-/

namespace MemberOutline.CommandLine

variable {E : Type} {read : Text → Except E Settings} {host host' : Host Id}
  {config : Option String} {settings settings' : Settings} {failure : Failure E}
  {path directory : String} {fault : Fault} {error : Settings.LoadError E}

/-! ## One settings file -/

/-- The settings that a file holds. -/
def HoldsSettings (read : Text → Except E Settings) (host : Host Id) (path : String)
    (settings : Settings) : Prop :=
  ∃ text, host.readFile path = .ok text ∧ read text = .ok settings

/-- Why a file holds no settings: its text cannot be had, or it is not valid. -/
inductive LacksSettings (read : Text → Except E Settings) (host : Host Id) (path : String) :
    Settings.LoadError E → Prop
  | unreadable {fault : Fault} (answer : host.readFile path = .error fault) :
    LacksSettings read host path (.unreadable fault)
  | invalid {text : Text} {e : E} (content : host.readFile path = .ok text)
      (bad : read text = .error e) : LacksSettings read host path (.invalid e)

/-- A file holds settings, or there is a reason why it holds none. -/
theorem holds_or_lacks (read : Text → Except E Settings) (host : Host Id) (path : String) :
    (∃ settings, HoldsSettings read host path settings) ∨
      ∃ error, LacksSettings read host path error := by
  cases answer : host.readFile path with
  | error fault => exact .inr ⟨_, .unreadable answer⟩
  | ok text =>
    cases valid : read text with
    | ok settings => exact .inl ⟨settings, text, answer, valid⟩
    | error e => exact .inr ⟨_, .invalid answer valid⟩

/-- The settings that a file holds are what is read from it. -/
theorem ofFile_of_holds (h : HoldsSettings read host path settings) :
    (Id.run (Settings.ofFile read host path)).1 = .ok settings := by
  obtain ⟨text, content, valid⟩ := h
  unfold Settings.ofFile
  rw [content]
  show (Settings.ofContent read path (.ok text)).1 = _
  rw [Settings.ofContent, valid]

/-- The reason why a file holds no settings is what reading it comes to. -/
theorem ofFile_of_lacks (h : LacksSettings read host path error) :
    (Id.run (Settings.ofFile read host path)).1 = .error error := by
  unfold Settings.ofFile
  cases h with
  | unreadable answer =>
    rw [answer]
    rfl
  | @invalid text e content bad =>
    rw [content]
    show (Settings.ofContent read path (.ok text)).1 = _
    rw [Settings.ofContent, bad]

/-! ## What loading may come to -/

/-- The settings that a run has: those in the file that is named, or those in the settings file of
the working directory, or the defaults if that has no such file. -/
inductive Loads (read : Text → Except E Settings) (host : Host Id) :
    Option String → Settings → Prop
  | named {path : String} {settings : Settings} (there : host.pathExists path = true)
      (file : HoldsSettings read host path settings) : Loads read host (some path) settings
  | discovered {directory : String} {settings : Settings}
      (here : host.workingDirectory = .ok directory)
      (isFile : host.isFile (joinPath directory Settings.fileName) = true)
      (file : HoldsSettings read host (joinPath directory Settings.fileName) settings) :
    Loads read host none settings
  | absent {directory : String} (here : host.workingDirectory = .ok directory)
      (noFile : host.isFile (joinPath directory Settings.fileName) = false) :
    Loads read host none {}

/-- Why a run has no settings: the file that is named is missing or holds none, the working
directory is not known, or its settings file is there and holds none. -/
inductive FailsToLoad (read : Text → Except E Settings) (host : Host Id) :
    Option String → Failure E → Prop
  | missing {path : String} (nowhere : host.pathExists path = false) :
    FailsToLoad read host (some path) (.configMissing path)
  | named {path : String} {error : Settings.LoadError E} (there : host.pathExists path = true)
      (file : LacksSettings read host path error) :
    FailsToLoad read host (some path) (.configFailed path error)
  | directoryUnknown {fault : Fault} (lost : host.workingDirectory = .error fault) :
    FailsToLoad read host none (.directoryUnknown fault)
  | discovered {directory : String} {error : Settings.LoadError E}
      (here : host.workingDirectory = .ok directory)
      (isFile : host.isFile (joinPath directory Settings.fileName) = true)
      (file : LacksSettings read host (joinPath directory Settings.fileName) error) :
    FailsToLoad read host none (.discoveryFailed directory error)

/-- The settings of a run load, or there is a reason why they do not. -/
theorem loads_or_failsToLoad (read : Text → Except E Settings) (host : Host Id)
    (config : Option String) :
    (∃ settings, Loads read host config settings) ∨
      ∃ failure, FailsToLoad read host config failure := by
  cases config with
  | some path =>
    cases there : host.pathExists path with
    | false => exact .inr ⟨_, .missing there⟩
    | true =>
      rcases holds_or_lacks read host path with ⟨settings, file⟩ | ⟨error, file⟩
      · exact .inl ⟨settings, .named there file⟩
      · exact .inr ⟨_, .named there file⟩
  | none =>
    cases here : host.workingDirectory with
    | error fault => exact .inr ⟨_, .directoryUnknown here⟩
    | ok directory =>
      cases isFile : host.isFile (joinPath directory Settings.fileName) with
      | false => exact .inl ⟨_, .absent here isFile⟩
      | true =>
        rcases holds_or_lacks read host (joinPath directory Settings.fileName) with
          ⟨settings, file⟩ | ⟨error, file⟩
        · exact .inl ⟨settings, .discovered here isFile file⟩
        · exact .inr ⟨_, .discovered here isFile file⟩

/-! ## What a run gets -/

/-- What a run gets for settings. -/
def loaded (read : Text → Except E Settings) (host : Host Id) (config : Option String) :
    Except (Failure E) Settings :=
  (Id.run (settingsFor read host config)).1

/-- What a run gets from a file that is named. -/
theorem loaded_named (path : String) :
    loaded read host (some path) =
      bif host.pathExists path then
        (Id.run (Settings.ofFile read host path)).1.mapError (.configFailed path)
      else .error (.configMissing path) := by
  unfold loaded settingsFor
  simp only
  cases host.pathExists path <;> rfl

/-- What a run gets from a working directory that is known. -/
theorem loaded_discovered (here : host.workingDirectory = .ok directory) :
    loaded read host none =
      bif host.isFile (joinPath directory Settings.fileName) then
        (Id.run (Settings.ofFile read host (joinPath directory Settings.fileName))).1.mapError
          (.discoveryFailed directory)
      else .ok {} := by
  unfold loaded settingsFor
  simp only
  rw [here]
  show Except.mapError _ (Id.run (Settings.ofDirectory read host directory)).1 = _
  unfold Settings.ofDirectory
  simp only
  cases host.isFile (joinPath directory Settings.fileName) <;> rfl

/-- What a run gets from a working directory that is not known. -/
theorem loaded_directoryUnknown (lost : host.workingDirectory = .error fault) :
    loaded read host none = .error (.directoryUnknown fault) := by
  unfold loaded settingsFor
  simp only
  rw [lost]
  rfl

/-- A run gets the settings that it loads. -/
theorem loaded_of_loads (h : Loads read host config settings) :
    loaded read host config = .ok settings := by
  cases h with
  | named there file =>
    rw [loaded_named, there, ofFile_of_holds file]
    rfl
  | discovered here isFile file =>
    rw [loaded_discovered here, isFile, ofFile_of_holds file]
    rfl
  | absent here noFile =>
    rw [loaded_discovered here, noFile]
    rfl

/-- A run whose settings fail to load gets the reason why. -/
theorem loaded_of_failsToLoad (h : FailsToLoad read host config failure) :
    loaded read host config = .error failure := by
  cases h with
  | missing nowhere =>
    rw [loaded_named, nowhere]
    rfl
  | named there file =>
    rw [loaded_named, there, ofFile_of_lacks file]
    rfl
  | directoryUnknown lost => exact loaded_directoryUnknown lost
  | discovered here isFile file =>
    rw [loaded_discovered here, isFile, ofFile_of_lacks file]
    rfl

/-- A run gets settings exactly if they load. -/
theorem loaded_eq_ok_iff :
    loaded read host config = .ok settings ↔ Loads read host config settings := by
  refine ⟨fun h => ?_, loaded_of_loads⟩
  rcases loads_or_failsToLoad read host config with ⟨settings', hloads⟩ | ⟨failure, hfails⟩
  · rw [loaded_of_loads hloads] at h
    rwa [← Except.ok.inj h]
  · rw [loaded_of_failsToLoad hfails] at h
    cases h

/-- A run gets a failure for settings exactly if that is why they fail to load. -/
theorem loaded_eq_error_iff :
    loaded read host config = .error failure ↔ FailsToLoad read host config failure := by
  refine ⟨fun h => ?_, loaded_of_failsToLoad⟩
  rcases loads_or_failsToLoad read host config with ⟨settings, hloads⟩ | ⟨failure', hfails⟩
  · rw [loaded_of_loads hloads] at h
    cases h
  · rw [loaded_of_failsToLoad hfails] at h
    rwa [← Except.error.inj h]

/-- A run does not load two settings. -/
theorem Loads.unique (h : Loads read host config settings)
    (h' : Loads read host config settings') : settings = settings' :=
  Except.ok.inj ((loaded_of_loads h).symm.trans (loaded_of_loads h'))

/-- Settings that load do not fail to load. -/
theorem Loads.not_failsToLoad (h : Loads read host config settings) :
    ¬ FailsToLoad read host config failure := by
  intro hfails
  have hloaded := (loaded_of_loads h).symm.trans (loaded_of_failsToLoad hfails)
  cases hloaded

/-! ## Hosts with the same settings -/

/-- Two hosts answer alike where the settings are looked for: on the file that is named, or on the
working directory and its settings file. -/
inductive SameSettings (host host' : Host Id) : Option String → Prop
  | named {path : String} (there : host.pathExists path = host'.pathExists path)
      (content : host.readFile path = host'.readFile path) : SameSettings host host' (some path)
  | discovered (here : host.workingDirectory = host'.workingDirectory)
      (isFile : ∀ directory, host.workingDirectory = .ok directory →
        host.isFile (joinPath directory Settings.fileName) =
          host'.isFile (joinPath directory Settings.fileName))
      (content : ∀ directory, host.workingDirectory = .ok directory →
        host.readFile (joinPath directory Settings.fileName) =
          host'.readFile (joinPath directory Settings.fileName)) : SameSettings host host' none

/-- What is read from a settings file depends on nothing but its content. -/
theorem ofFile_congr (content : host.readFile path = host'.readFile path) :
    Settings.ofFile read host path = Settings.ofFile read host' path := by
  unfold Settings.ofFile
  rw [content]

/-- Runs on hosts that agree on where the settings are looked for get the same settings, or the same
failure. -/
theorem SameSettings.loaded_eq (h : SameSettings host host' config) :
    loaded read host config = loaded read host' config := by
  cases h with
  | named there content => rw [loaded_named, loaded_named, there, ofFile_congr content]
  | discovered here isFile content =>
    cases answer : host.workingDirectory with
    | error fault =>
      rw [loaded_directoryUnknown answer, loaded_directoryUnknown (here ▸ answer)]
    | ok directory =>
      rw [loaded_discovered answer, loaded_discovered (here ▸ answer), isFile directory answer,
        ofFile_congr (content directory answer)]

end MemberOutline.CommandLine
