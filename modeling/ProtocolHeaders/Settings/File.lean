import ProtocolHeaders.File.Access
import ProtocolHeaders.Settings.Format

/-!
# Configuration files

Settings are loaded from files and saved to them.
-/

namespace ProtocolHeaders

open File (Access Fault)

/-- Why settings cannot be loaded or saved. -/
inductive SettingsError where
  /-- The file cannot be read or written. -/
  | file (fault : Fault)
  | malformed
  /-- There is no directory for the settings of the user. -/
  | noUserDirectory
deriving Repr, DecidableEq

/-- The text shown for an error. -/
def SettingsError.message : SettingsError -> String
  | .file fault => "Failed to read config file: " ++ fault.message
  | .malformed => "Failed to parse config file: malformed settings"
  | .noUserDirectory => "Could not find user config directory"

namespace Settings

/-- Load settings from a file. -/
def load {m : Type -> Type} [Monad m] (files : Access m) (path : String) :
    m (Except SettingsError Settings) := do
  match <- files.read path with
  | .error fault => return .error (.file fault)
  | .ok text =>
      match read? text with
      | some settings => return .ok settings
      | none => return .error .malformed

/-- Save settings to a file, whose directory must exist. -/
def save {m : Type -> Type} [Monad m] (files : Access m) (path : String)
    (settings : Settings) : m (Except SettingsError Unit) := do
  match <- files.write path settings.write with
  | .error fault => return .error (.file fault)
  | .ok () => return .ok ()

end Settings

end ProtocolHeaders
