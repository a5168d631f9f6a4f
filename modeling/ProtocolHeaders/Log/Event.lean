import ProtocolHeaders.Cleanup.Report
import ProtocolHeaders.Validation.Finding

/-!
# Events worth a log line

The steps of a run report what they do as events. Each event has a level and a
text; where and whether it is shown is decided elsewhere.
-/

namespace ProtocolHeaders.Log

/-- How much an event matters, from most to least. -/
inductive Level where
  | error
  | warn
  | info
  | debug
  | trace
deriving Repr, DecidableEq, Inhabited

/-- The name of a level. -/
def Level.name : Level -> String
  | error => "error"
  | warn => "warn"
  | info => "info"
  | debug => "debug"
  | trace => "trace"

/-- Something that a run reports. -/
inductive Event where
  | loaded (enumerations aliases interfaces requests notifications : Nat) (path : String)
  | phaseStarted (name description : String)
  | renamedEnumeration (oldName newName : String)
  | droppedBase (base interface : String)
  | shadowedAlias (name : String)
  | prunedDependency (name : String)
  | cleaned (report : Cleanup.Report)
  /-- A base of an interface was left out because it is being flattened already. -/
  | extensionCycle (base interface : String)
  /-- A finding that is an error if the validation is strict and a warning if not. -/
  | found (finding : Finding) (strict : Bool)
  | phasesWarned (warnings : Nat)
  | checksum (digest : String)
  | releasedBatch (released remaining : Nat)
  | dependencyCycle (remaining : Nat)
  | skippedAlias (name : String)
  | declared (enumerations nodes : Nat)
  | forwardDeclared (path : String)
  /-- Two methods have the same identifier in the generated code. -/
  | methodCollision (first second identifier : String)
  | wrote (path : String)
  | artifactFailed (artifact reason : String)
  /-- An artifact is missing at the end of a run. -/
  | artifactMissing (artifact reason : String)
  | generated (artifacts : Nat) (directory : String) (warnings : Nat) (digest : String)
deriving Repr, DecidableEq

namespace Event

/-- How much an event matters. -/
def level : Event -> Level
  | loaded .. => .info
  | phaseStarted .. => .info
  | renamedEnumeration .. => .debug
  | droppedBase .. => .debug
  | shadowedAlias .. => .debug
  | prunedDependency .. => .debug
  | cleaned .. => .info
  | extensionCycle .. => .warn
  | found _ strict => if strict then .error else .warn
  | phasesWarned .. => .warn
  | checksum .. => .info
  | releasedBatch .. => .debug
  | dependencyCycle .. => .warn
  | skippedAlias .. => .debug
  | declared .. => .debug
  | forwardDeclared .. => .debug
  | methodCollision .. => .warn
  | wrote .. => .info
  | artifactFailed .. => .error
  | artifactMissing .. => .error
  | generated .. => .info

/-- The text shown for an event. -/
def message : Event -> String
  | loaded enumerations aliases interfaces requests notifications path =>
      "Loaded " ++ toString enumerations ++ " enumerations, " ++ toString aliases ++
        " aliases, " ++ toString interfaces ++ " interfaces, " ++ toString requests ++
        " requests and " ++ toString notifications ++ " notifications from " ++ path
  | phaseStarted name description => "Running phase " ++ name ++ ": " ++ description
  | renamedEnumeration oldName newName =>
      "Renaming enumeration " ++ oldName ++ " to " ++ newName
  | droppedBase base interface => "Dropping removed base " ++ base ++ " from " ++ interface
  | shadowedAlias name => "Removing type alias " ++ name ++ " shadowed by a richer entity"
  | prunedDependency name => "Pruning dangling dependency " ++ name
  | cleaned report => report.summary
  | extensionCycle base interface =>
      "Extension cycle through " ++ base ++ " while flattening " ++ interface
  | found finding _ => finding.message
  | phasesWarned warnings => "Model passes reported " ++ toString warnings ++ " warnings"
  | checksum digest => "Model checksum: " ++ digest
  | releasedBatch released remaining =>
      "Released batch of " ++ toString released ++ " nodes, " ++ toString remaining ++ " remaining"
  | dependencyCycle remaining => "Dependency cycle among " ++ toString remaining ++ " nodes"
  | skippedAlias name => "Skipping builtin alias " ++ name
  | declared enumerations nodes =>
      "Declared " ++ toString enumerations ++ " enumerations and " ++ toString nodes ++
        " ordered nodes"
  | forwardDeclared path => "Forward-declaring bindings of " ++ path
  | methodCollision first second identifier =>
      "Methods " ++ first ++ " and " ++ second ++ " both map to " ++ identifier
  | wrote path => "Wrote " ++ path
  | artifactFailed artifact reason => "Failed to generate " ++ artifact ++ ": " ++ reason
  | artifactMissing artifact reason => artifact ++ ": " ++ reason
  | generated artifacts directory warnings digest =>
      "Generated " ++ toString artifacts ++ " artifact(s) in " ++ directory ++ " with " ++
        toString warnings ++ " model warning(s) (checksum " ++ digest ++ ")"

end Event

end ProtocolHeaders.Log
