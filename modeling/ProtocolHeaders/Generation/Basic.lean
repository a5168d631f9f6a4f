import ProtocolHeaders.File.Access
import ProtocolHeaders.Generation.Context
import ProtocolHeaders.Header.Artifact
import ProtocolHeaders.Legacy.Format
import ProtocolHeaders.Model.Format
import ProtocolHeaders.Phase
import ProtocolHeaders.Sha256

/-!
# Runs

A run loads a model, takes it through the phases, and writes each artifact to its file.
Nothing is written unless the model loads and passes. An artifact that fails does not
keep the others from being written.
-/

namespace ProtocolHeaders.Generation

open File (Access Fault)
open Header (Artifact)
open Log (Event)

/-- Why a run stops. -/
inductive RunError where
  /-- The model cannot be read, or the output directory cannot be made. -/
  | file (fault : Fault)
  | json (error : Json.Error)
  | phase (error : PhaseError)
  | cycle (cycle : Order.Cycle)
deriving Repr, DecidableEq

/-- The text shown for an error. -/
def RunError.message : RunError -> String
  | .file fault => fault.message
  | .json error => error.message
  | .phase error => error.message
  | .cycle found => found.message

/-- The result of a part of a run, with what that part reports. -/
structure Outcome (α : Type) where
  result : Except RunError α
  events : List Event
deriving Repr

/-! ## Loading -/

/-- The model in the text of a model file. -/
def readModel (schema : Schema) (text : String) : Except Json.Error Model :=
  match schema with
  | .current => Model.read text
  | .legacy => (Legacy.Model.read text).map Legacy.Model.convert

/-- The report of a model that was loaded. -/
def loadedEvent (path : String) (model : Model) : Event :=
  .loaded model.enumerations.length model.aliases.length model.interfaces.length
    model.requests.length model.notifications.length path

/-- Load a model file. -/
def load {m : Type -> Type} [Monad m] (files : Access m) (path : String) (schema : Schema) :
    m (Outcome Model) := do
  match <- files.read path with
  | .error fault => return ⟨.error (.file fault), []⟩
  | .ok text =>
      match readModel schema text with
      | .error error => return ⟨.error (.json error), []⟩
      | .ok model => return ⟨.ok model, [loadedEvent path model]⟩

/-- Write a model to a file, making the directories on the way to it. -/
def saveModel {m : Type -> Type} [Monad m] (files : Access m) (path : String) (model : Model) :
    m (Except Fault Unit) := do
  match <- files.createDirectories ((Path.parent? path).getD "") with
  | .error fault => return .error fault
  | .ok () => files.write path model.writeFile

/-! ## Phases -/

/-- The report of the warnings of all phases, if there are any. -/
def warningEvents (warnings : List Finding) : List Event :=
  if warnings.isEmpty then [] else [.phasesWarned warnings.length]

/-- Take a model through the phases. -/
def analyze (context : Context) (model : Model) : Outcome Analysis :=
  let run := Phase.runAll (Phase.standard context.rules context.strict) { model }
  match run.failure? with
  | some failure => ⟨.error (.phase failure), run.events⟩
  | none => ⟨.ok run.analysis, run.events ++ warningEvents run.analysis.warnings⟩

/-- Load the model of a context and take it through the phases. -/
def prepare {m : Type -> Type} [Monad m] (files : Access m) (context : Context) :
    m (Outcome Analysis) := do
  let loaded <- load files context.modelPath context.schema
  match loaded.result with
  | .error error => return ⟨.error error, loaded.events⟩
  | .ok model =>
      let analyzed := analyze context model
      return { analyzed with events := loaded.events ++ analyzed.events }

/-! ## Artifacts -/

/-- The options with which a model of a digest is generated. -/
def optionsFor (context : Context) (digest : String) : Header.Options :=
  { context.options with checksum? := some digest }

/-- An artifact that was tried, with the reason if it failed. -/
structure Attempt where
  artifact : String
  path : String
  failure? : Option String
  events : List Event
deriving Repr, DecidableEq

/-- Render an artifact and write it to its file. -/
def attempt {m : Type -> Type} [Monad m] (files : Access m) (context : Context)
    (options : Header.Options) (model : Model) (artifact : Artifact) : m Attempt := do
  let file := artifact.file options
  let path := context.artifactPath file
  let rendering := artifact.events options model
  let failed (reason : String) : Attempt :=
    ⟨file, path, some reason, rendering ++ [.artifactFailed file reason]⟩
  match artifact.render options model with
  | .error cycle => return failed cycle.message
  | .ok text =>
      match <- files.write path text with
      | .error fault => return failed fault.message
      | .ok () => return ⟨file, path, none, rendering ++ [.wrote path]⟩

/-- What a run that was not stopped comes to. -/
structure Report where
  checksum : String
  attempts : List Attempt
  warnings : List Finding
deriving Repr, DecidableEq

namespace Report

/-- The paths of the files that were written. -/
def written (report : Report) : List String :=
  (report.attempts.filter (·.failure?.isNone)).map Attempt.path

/-- The artifacts that failed, each with the reason. -/
def failed (report : Report) : List (String × String) :=
  report.attempts.filterMap fun attempt =>
    attempt.failure?.map fun reason => (attempt.artifact, reason)

/-- Whether every artifact was written. -/
def isSuccess (report : Report) : Bool :=
  report.failed.isEmpty

end Report

/-- Generate all artifacts of an analyzed model. -/
def generate {m : Type -> Type} [Monad m] (files : Access m) (context : Context)
    (analysis : Analysis) : m (Outcome Report) := do
  let digest := Sha256.hexDigest analysis.model.write
  match <- files.createDirectories context.outputDirectory with
  | .error fault => return ⟨.error (.file fault), [.checksum digest]⟩
  | .ok () =>
      let attempts <-
        Artifact.all.mapM (attempt files context (optionsFor context digest) analysis.model)
      return ⟨.ok ⟨digest, attempts, analysis.warnings⟩,
        .checksum digest :: attempts.flatMap Attempt.events⟩

/-- Run a context. -/
def run {m : Type -> Type} [Monad m] (files : Access m) (context : Context) :
    m (Outcome Report) := do
  let prepared <- prepare files context
  match prepared.result with
  | .error error => return ⟨.error error, prepared.events⟩
  | .ok analysis =>
      let generated <- generate files context analysis
      return { generated with events := prepared.events ++ generated.events }

/-- The names of the aliases and interfaces of a context's model in the order in which
they are declared. -/
def emissionOrder {m : Type -> Type} [Monad m] (files : Access m) (context : Context) :
    m (Outcome (List String)) := do
  let prepared <- prepare files context
  match prepared.result with
  | .error error => return ⟨.error error, prepared.events⟩
  | .ok analysis =>
      let events := prepared.events ++ Order.events analysis.model.nodes
      match Order.order analysis.model.nodes with
      | .error cycle => return ⟨.error (.cycle cycle), events⟩
      | .ok nodes => return ⟨.ok (nodes.map Node.name), events⟩

end ProtocolHeaders.Generation
