import ProtocolHeaders.Command.Arguments
import ProtocolHeaders.Generation.Basic
import ProtocolHeaders.Settings.File

/-!
# The commands of the program

`generate` writes the headers of a model, `order` prints the order in which its entities
are declared, and `init-config` writes a configuration file with the default settings.
Arguments count more than the configuration file, and the file more than the defaults.
-/

namespace ProtocolHeaders.Command

open File (Access Fault)
open Generation (Context RunError Report)
open Log (Event)

/-- Why a command fails. -/
inductive ProgramError where
  | settings (error : SettingsError)
  | run (error : RunError)
  | artifactsFailed (count : Nat)
deriving Repr, DecidableEq

/-- The text shown for an error. -/
def ProgramError.message : ProgramError -> String
  | .settings error => error.message
  | .run error => error.message
  | .artifactsFailed count => toString count ++ " artifact(s) failed"

/-! ## Settings -/

/-- The settings with what the arguments about the model say. -/
def ModelArguments.apply (arguments : ModelArguments) (settings : Settings) : Settings :=
  { settings with
    model :=
      { path := arguments.model?.getD settings.model.path
        schema := if arguments.legacy then .legacy else settings.model.schema
        strict := arguments.strict || settings.model.strict }
    logging := { level := arguments.logLevel?.getD settings.logging.level } }

/-- The settings with what the arguments about the headers say. -/
def applyOutput (output? namespaceName? : Option String) (settings : Settings) : Settings :=
  { settings with
    output :=
      { settings.output with
        directory := output?.getD settings.output.directory
        namespaceName := namespaceName?.getD settings.output.namespaceName } }

/-- The settings of the file that the arguments name, or else of the user's file if
there is one, or else the defaults. -/
def baseSettings {m : Type -> Type} [Monad m] (files : Access m) (userFile? : Option String)
    (arguments : ModelArguments) : m (Except SettingsError Settings) := do
  match arguments.config? with
  | some path => Settings.load files path
  | none =>
      match userFile? with
      | none => return .ok {}
      | some path =>
          if <- files.isFile path then Settings.load files path else return .ok {}

/-- The settings of a command that reads a model. -/
def modelSettings {m : Type -> Type} [Monad m] (files : Access m) (userFile? : Option String)
    (arguments : ModelArguments) : m (Except SettingsError Settings) := do
  return (<- baseSettings files userFile? arguments).map arguments.apply

/-- The settings of a command, if it has any. -/
def Invocation.settings? {m : Type -> Type} [Monad m] (files : Access m)
    (userFile? : Option String) : Invocation -> m (Option (Except SettingsError Settings))
  | .generate arguments output? namespaceName? => do
      let settings <- modelSettings files userFile? arguments
      return some (settings.map (applyOutput output? namespaceName?))
  | .order arguments => do return some (<- modelSettings files userFile? arguments)
  | .initConfig _ => return none

/-! ## Running -/

/-- What the program leaves behind besides files. -/
structure Completion where
  code : Nat
  output : String := ""
  errors : String := ""
  /-- The level at which the settings want events to be shown. -/
  level? : Option String := none
  events : List Event := []
deriving Repr, DecidableEq

/-- The completion of a command that fails. -/
def failed (error : ProgramError) (level? : Option String) (events : List Event) : Completion :=
  { code := 1, errors := "Error: " ++ error.message ++ "\n", level?, events }

/-- What a run reports once all artifacts were tried. -/
def closingEvents (context : Context) (report : Report) : List Event :=
  report.failed.map (fun (artifact, reason) => .artifactMissing artifact reason) ++
    [.generated report.written.length context.outputDirectory report.warnings.length
      report.checksum]

/-- Generate the headers. -/
def generateHeaders {m : Type -> Type} [Monad m] (files : Access m) (settings : Settings) :
    m Completion := do
  let context := Context.ofSettings settings
  let level? := some settings.logging.level
  let outcome <- Generation.run files context
  match outcome.result with
  | .error error => return failed (.run error) level? outcome.events
  | .ok report =>
      let events := outcome.events ++ closingEvents context report
      if report.isSuccess then return { code := 0, level?, events }
      else return failed (.artifactsFailed report.failed.length) level? events

/-- Print the order of the declarations, one name to a line. -/
def printOrder {m : Type -> Type} [Monad m] (files : Access m) (settings : Settings) :
    m Completion := do
  let level? := some settings.logging.level
  let outcome <- Generation.emissionOrder files (Context.ofSettings settings)
  match outcome.result with
  | .error error => return failed (.run error) level? outcome.events
  | .ok names =>
      return { code := 0, output := String.join (names.map (· ++ "\n")), level?,
               events := outcome.events }

/-- Write the default settings to a file, making the directories on the way to it. -/
def writeDefaults {m : Type -> Type} [Monad m] (files : Access m)
    (path? : Option String) : m Completion := do
  match path? with
  | none => return failed (.settings .noUserDirectory) none []
  | some path =>
      match <- files.createDirectories ((Path.parent? path).getD "") with
      | .error fault => return failed (.settings (.file fault)) none []
      | .ok () =>
          match <- Settings.save files path {} with
          | .error error => return failed (.settings error) none []
          | .ok () =>
              return { code := 0, output := "Wrote default configuration to " ++ path ++ "\n" }

/-- Run a command. -/
def Invocation.run {m : Type -> Type} [Monad m] (files : Access m)
    (userFile? : Option String) (invocation : Invocation) : m Completion := do
  match <- invocation.settings? files userFile? with
  | some (.error error) => return failed (.settings error) none []
  | some (.ok settings) =>
      match invocation with
      | .order _ => printOrder files settings
      | _ => generateHeaders files settings
  | none =>
      match invocation with
      | .initConfig (some path) => writeDefaults files (some path)
      | _ => writeDefaults files userFile?

/-- The name and version of the program. -/
def versionLine : String := "lspgen 0.1.0\n"

/-- What a command line that is not run comes to. -/
def Refusal.completion (refusal : Refusal) : Completion :=
  if refusal = .version then { code := 0, output := versionLine }
  else if refusal.isRequested then { code := 0 }
  else { code := 2 }

/-- Run the program on its arguments. -/
def runProgram {m : Type -> Type} [Monad m] (files : Access m) (userFile? : Option String)
    (arguments : List String) : m Completion := do
  match parse arguments with
  | .error refusal => return refusal.completion
  | .ok invocation => invocation.run files userFile?

end ProtocolHeaders.Command
