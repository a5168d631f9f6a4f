import ProtocolHeaders.Command.Program
import ProtocolHeaders.Proofs.Generation.Run
import ProtocolHeaders.Proofs.Settings.Layers

/-!
# The settings of a command

A command has one configuration file or none, which the arguments and the files around it
select. If the file can be used, every setting is what the arguments say, or else what the file
says, or else its default. If it cannot be used, the command has no settings, whatever else the
arguments say: nothing falls back to another file or to the defaults.
-/

namespace ProtocolHeaders.Command

open Generation (run_bind run_read)
open Settings (IsLayered Overrides)

variable {files : FileSystem} {file? : Option String}

/-! ## The configuration file -/

/-- The configuration file of a command: the one that its arguments name, or else the one of the
user if it leads to a file. -/
def selectedFile? (files : FileSystem) (userFile? config? : Option String) : Option String :=
  config?.or (userFile?.filter files.isFile)

/-- The document of a configuration file that can be read and holds settings. Without a file it
is empty. -/
inductive Provides (files : FileSystem) : (file? : Option String) -> Toml.Table -> Prop where
  | nothing : Provides files none []
  | file {path text document} (found : files.read path = .ok text)
      (parsed : Toml.read? text = some document)
      (isUsable : (Settings.ofTable? document).isSome) : Provides files (some path) document

/-- Why a configuration file cannot be used: it cannot be read, or its text is malformed. -/
inductive IsUnusable (files : FileSystem) : (file? : Option String) -> SettingsError -> Prop where
  | unreadable {path fault} (fails : files.read path = .error fault) :
      IsUnusable files (some path) (.file fault)
  | malformed {path text} (found : files.read path = .ok text)
      (unparsed : Settings.read? text = none) : IsUnusable files (some path) .malformed

/-- The settings of a configuration file. Without a file they are the defaults. -/
def settingsOfFile (files : FileSystem) : (file? : Option String) ->
    Except SettingsError Settings
  | none => .ok {}
  | some path =>
      match files.read path with
      | .error fault => .error (.file fault)
      | .ok text =>
          match Settings.read? text with
          | some settings => .ok settings
          | none => .error .malformed

/-- Loading settings leaves the files alone. -/
theorem run_load (files : FileSystem) (path : String) :
    (Settings.load FileSystem.access path).run files =
      (settingsOfFile files (some path), files) := by
  rw [Settings.load, run_bind, run_read, settingsOfFile]
  cases files.read path with
  | error fault => rfl
  | ok text =>
      dsimp only
      cases Settings.read? text with
      | none => rfl
      | some settings => rfl

/-- The settings without arguments are those of the selected file, which is only read. -/
theorem run_baseSettings (files : FileSystem) (userFile? : Option String)
    (arguments : ModelArguments) :
    (baseSettings FileSystem.access userFile? arguments).run files =
      (settingsOfFile files (selectedFile? files userFile? arguments.config?), files) := by
  rw [baseSettings.eq_def]
  cases arguments.config? with
  | some path => exact run_load files path
  | none =>
      cases userFile? with
      | none => rfl
      | some path =>
          have isFile : (FileSystem.access.isFile path).run files = (files.isFile path, files) :=
            rfl
          dsimp only
          rw [run_bind, isFile, selectedFile?, Option.none_or, Option.filter_some]
          split
          · exact run_load files path
          · rfl

/-- Settings are missing exactly if there is a file that cannot be used. -/
theorem settingsOfFile_eq_error_iff {error : SettingsError} :
    settingsOfFile files file? = .error error ↔ IsUnusable files file? error := by
  constructor
  · intro failed
    cases file? with
    | none => cases failed
    | some path =>
        rw [settingsOfFile] at failed
        split at failed
        · rename_i fault fails
          cases failed
          exact .unreadable fails
        · rename_i text found
          split at failed
          · cases failed
          · rename_i unparsed
            cases failed
            exact .malformed found unparsed
  · rintro (fails | ⟨found, unparsed⟩)
    · rw [settingsOfFile, fails]
    · rw [settingsOfFile, found]
      dsimp only
      rw [unparsed]

/-- The settings of a file that can be used are layered over the defaults. -/
theorem exists_provides_of_settingsOfFile {settings : Settings}
    (loaded : settingsOfFile files file? = .ok settings) :
    ∃ document, Provides files file? document ∧ IsLayered {} document settings := by
  cases file? with
  | none =>
      cases loaded
      exact ⟨[], .nothing, Settings.isLayered_of_ofTable? rfl⟩
  | some path =>
      rw [settingsOfFile] at loaded
      split at loaded
      · cases loaded
      · rename_i text found
        split at loaded
        · rename_i read
          cases loaded
          obtain ⟨document, parsed, isSettings⟩ := Option.bind_eq_some_iff.mp read
          exact ⟨document, .file found parsed (Option.isSome_of_eq_some isSettings),
            Settings.isLayered_of_ofTable? isSettings⟩
        · cases loaded

/-- A document that is provided gives settings. -/
theorem Provides.exists_settings {document : Toml.Table}
    (provides : Provides files file? document) :
    ∃ settings, settingsOfFile files file? = .ok settings ∧ IsLayered {} document settings := by
  cases provides with
  | nothing => exact ⟨{}, rfl, Settings.isLayered_of_ofTable? rfl⟩
  | file found parsed isUsable =>
      obtain ⟨settings, isSettings⟩ := Option.isSome_iff_exists.mp isUsable
      have read : Settings.read? _ = some settings :=
        Option.bind_eq_some_iff.mpr ⟨_, parsed, isSettings⟩
      refine ⟨settings, ?_, Settings.isLayered_of_ofTable? isSettings⟩
      rw [settingsOfFile, found]
      dsimp only
      rw [read]

/-! ## Arguments -/

/-- What the arguments of a command say about its settings. The two flags can only be given. -/
def overrides (arguments : ModelArguments) (output? namespaceName? : Option String) :
    Overrides where
  path? := arguments.model?
  schema? := if arguments.legacy then some .legacy else none
  strict? := if arguments.strict then some true else none
  directory? := output?
  namespaceName? := namespaceName?
  level? := arguments.logLevel?

/-- Arguments count more than all that was chosen without them. -/
theorem isLayered_apply {document : Toml.Table} {settings : Settings}
    (layered : IsLayered {} document settings) (arguments : ModelArguments)
    (output? namespaceName? : Option String) :
    IsLayered (overrides arguments output? namespaceName?) document
      (applyOutput output? namespaceName? (arguments.apply settings)) where
  path := layered.path.override arguments.model?
  schema := by
    have chosen := layered.schema.override (if arguments.legacy then some .legacy else none)
    rw [apply_ite (Option.getD · settings.model.schema)] at chosen
    exact chosen
  strict := by
    have chosen := layered.strict.override (if arguments.strict then some true else none)
    have raised : (if arguments.strict then some true else none).getD settings.model.strict =
        (arguments.strict || settings.model.strict) := by
      cases arguments.strict with
      | false => rfl
      | true => rfl
    rw [raised] at chosen
    exact chosen
  directory := layered.directory.override output?
  namespaceName := layered.namespaceName.override namespaceName?
  declarations := layered.declarations
  bindings := layered.bindings
  notifications := layered.notifications
  requests := layered.requests
  level := layered.level.override arguments.logLevel?
  enumRenames := layered.enumRenames
  removedInterfaces := layered.removedInterfaces
  removedAliases := layered.removedAliases
  builtinAliases := layered.builtinAliases
  forwardDeclared := layered.forwardDeclared

/-! ## Commands -/

/-- The settings of a command that generates headers, on a file system as a value. -/
def generateSettings (files : FileSystem) (userFile? : Option String)
    (arguments : ModelArguments) (output? namespaceName? : Option String) :
    Except SettingsError Settings :=
  (settingsOfFile files (selectedFile? files userFile? arguments.config?)).map
    fun settings => applyOutput output? namespaceName? (arguments.apply settings)

/-- The settings of a generation are its own, and the files stay. -/
theorem run_settings?_generate (files : FileSystem) (userFile? : Option String)
    (arguments : ModelArguments) (output? namespaceName? : Option String) :
    ((Invocation.generate arguments output? namespaceName?).settings? FileSystem.access
        userFile?).run files =
      (some (generateSettings files userFile? arguments output? namespaceName?), files) := by
  rw [Invocation.settings?, run_bind, modelSettings, run_bind, run_baseSettings, generateSettings]
  cases settingsOfFile files (selectedFile? files userFile? arguments.config?) with
  | error error => rfl
  | ok settings => rfl

/-- The settings of a generation fail if the file for them is unusable. -/
theorem generateSettings_eq_error_iff {userFile? : Option String} {arguments : ModelArguments}
    {output? namespaceName? : Option String} {error : SettingsError} :
    generateSettings files userFile? arguments output? namespaceName? = .error error ↔
      IsUnusable files (selectedFile? files userFile? arguments.config?) error := by
  rw [← settingsOfFile_eq_error_iff, generateSettings]
  cases settingsOfFile files (selectedFile? files userFile? arguments.config?) with
  | error other => exact Iff.rfl
  | ok settings => exact iff_of_false nofun nofun

/-- The settings of a generation are those of its flags, of its file and of the defaults. -/
theorem generateSettings_eq_ok_iff {userFile? : Option String} {arguments : ModelArguments}
    {output? namespaceName? : Option String} {settings : Settings} :
    generateSettings files userFile? arguments output? namespaceName? = .ok settings ↔
      ∃ document, Provides files (selectedFile? files userFile? arguments.config?) document ∧
        IsLayered (overrides arguments output? namespaceName?) document settings := by
  rw [generateSettings]
  constructor
  · intro chosen
    cases loaded : settingsOfFile files (selectedFile? files userFile? arguments.config?) with
    | error error =>
        rw [loaded] at chosen
        cases chosen
    | ok base =>
        rw [loaded] at chosen
        cases chosen
        obtain ⟨document, provides, layered⟩ := exists_provides_of_settingsOfFile loaded
        exact ⟨document, provides, isLayered_apply layered arguments output? namespaceName?⟩
  · rintro ⟨document, provides, layered⟩
    obtain ⟨base, loaded, baseLayered⟩ := provides.exists_settings
    rw [loaded]
    exact congrArg Except.ok
      ((isLayered_apply baseLayered arguments output? namespaceName?).unique layered)

/-- A command reads one configuration file at most, and leaves the files as they are. It fails
exactly if that file cannot be used, whatever else its arguments say. Otherwise each of its
settings is what the arguments say, or else what the file says, or else the default. -/
theorem command_settings_are_layered (files : FileSystem) (userFile? : Option String)
    (arguments : ModelArguments) (output? namespaceName? : Option String) :
    let file? := selectedFile? files userFile? arguments.config?
    ∃ result : Except SettingsError Settings,
      ((Invocation.generate arguments output? namespaceName?).settings? FileSystem.access
          userFile?).run files = (some result, files) ∧
        (∀ error, result = .error error ↔ IsUnusable files file? error) ∧
        ∀ settings, result = .ok settings ↔
          ∃ document, Provides files file? document ∧
            IsLayered (overrides arguments output? namespaceName?) document settings :=
  ⟨generateSettings files userFile? arguments output? namespaceName?,
    run_settings?_generate files userFile? arguments output? namespaceName?,
    fun _ => generateSettings_eq_error_iff, fun _ => generateSettings_eq_ok_iff⟩

end ProtocolHeaders.Command
