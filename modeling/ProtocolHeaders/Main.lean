import ProtocolHeaders.Command.Program
import ProtocolHeaders.Log.Filter

/-!
# The program

Runs the commands on real files. Events that the filter shows go to standard error.
-/

open ProtocolHeaders
open ProtocolHeaders.File (Fault)

/-- The fault that an error of the system stands for. -/
def faultOf (error : IO.Error) : Fault :=
  match error with
  | .noFileOrDirectory .. => .notFound
  | .alreadyExists .. => .alreadyExists
  | .inappropriateType _ 20 _ => .notDirectory
  | .inappropriateType _ 21 _ => .isDirectory
  | .invalidArgument _ 36 _ => .nameTooLong
  | error => .other (toString error)

/-- The result of an action, or the fault that ended it. -/
def catchFault {α : Type} (action : IO α) : IO (Except Fault α) := do
  try
    return .ok (<- action)
  catch error =>
    return .error (faultOf error)

/-- The text of bytes. -/
def textOf (bytes : ByteArray) : Except Fault String :=
  match String.fromUTF8? bytes with
  | some text => .ok text
  | none => .error .notText

/-- Access to the files of the system. -/
def systemAccess : File.Access IO where
  read path := do return (<- catchFault (IO.FS.readBinFile path)).bind textOf
  isFile path := do
    let real <- catchFault (do (<- IO.FS.realPath path).metadata)
    return match real with
      | .ok metadata => metadata.type == .file
      | .error _ => false
  createDirectories path := catchFault (if path.isEmpty then pure () else IO.FS.createDirAll path)
  write path text := catchFault (IO.FS.writeFile path text)

/-- The file with the settings of the user. -/
def userSettingsFile? : IO (Option String) := do
  let configured := (<- IO.getEnv "XDG_CONFIG_HOME").filter Path.isAbsolute
  let home := (<- IO.getEnv "HOME").map fun home => Path.join home ".config"
  return (configured <|> home).map fun directory =>
    Path.join (Path.join directory "lspgen") "config.toml"

/-- The line that shows an event. -/
def eventLine (event : Log.Event) : String :=
  event.level.name.toUpper ++ " " ++ event.message

/-- Run the program: show the events that the filter lets through, then its output. -/
def main (arguments : List String) : IO UInt32 := do
  let completion <- Command.runProgram systemAccess (<- userSettingsFile?) arguments
  let filter := Log.Filter.choose (<- IO.getEnv "RUST_LOG") completion.level?
  for event in completion.events do
    if filter.shows event.level then IO.eprintln (eventLine event)
  IO.print completion.output
  IO.eprint completion.errors
  return completion.code.toUInt32
