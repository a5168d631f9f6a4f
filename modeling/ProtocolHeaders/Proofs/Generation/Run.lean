import ProtocolHeaders.File.System
import ProtocolHeaders.Generation.Basic

/-!
# Runs on a file system

On a file system as a value, a run is a function of it. Each part of a run has its result
stated once, and whether it leaves the files as they are.
-/

namespace ProtocolHeaders.Generation

open Header (Artifact)

variable {files : FileSystem} {context : Context} {analysis : Analysis}

/-! ## Access -/

/-- What follows a part of a run starts from its result and from the files that it leaves. -/
theorem run_bind {α β : Type} (first : StateM FileSystem α) (next : α -> StateM FileSystem β)
    (files : FileSystem) :
    (first >>= next).run files = (next (first.run files).1).run (first.run files).2 := rfl

/-- A value by itself leaves the files alone. -/
theorem run_pure {α : Type} (value : α) (files : FileSystem) :
    (pure value : StateM FileSystem α).run files = (value, files) := rfl

/-- A change is run as it is. -/
theorem run_modifyGet {α : Type} (change : FileSystem -> α × FileSystem) (files : FileSystem) :
    (modifyGet change : StateM FileSystem α).run files = change files := rfl

/-- Reading leaves the files alone. -/
theorem run_read (files : FileSystem) (path : String) :
    (FileSystem.access.read path).run files = (files.read path, files) := rfl

/-- Directories are made in the file system. -/
theorem run_createDirectories (files : FileSystem) (path : String) :
    (FileSystem.access.createDirectories path).run files = files.createDirectories path := by
  simp only [FileSystem.access, run_modifyGet]

/-- Writing changes the files unless it fails. -/
theorem run_write (files : FileSystem) (path text : String) :
    (FileSystem.access.write path text).run files =
      match files.writeContent path (.text text) with
      | .ok written => (.ok (), written)
      | .error fault => (.error fault, files) := by
  simp only [FileSystem.access, run_modifyGet]
  cases files.writeContent path (.text text) <;> rfl

/-! ## Preparing -/

/-- Loading a model only reads. -/
theorem snd_run_load (files : FileSystem) (path : String) (schema : Schema) :
    ((load FileSystem.access path schema).run files).2 = files := by
  rw [load, run_bind, run_read]
  split
  · rfl
  · split <;> rfl

/-- Loading a model and taking it through the phases only reads. -/
theorem snd_run_prepare (files : FileSystem) (context : Context) :
    ((prepare FileSystem.access context).run files).2 = files := by
  rw [prepare, run_bind]
  split <;> exact snd_run_load files context.modelPath context.schema

/-- A model that is read from its file is taken through the phases. -/
theorem result_prepare {text : String} {model : Model}
    (found : files.read context.modelPath = .ok text)
    (read : readModel context.schema text = .ok model) :
    ((prepare FileSystem.access context).run files).1.result = (analyze context model).result := by
  simp only [prepare, load, run_bind, run_read, run_pure, found, read]

/-- Unless it is strict, a context lets every model pass. -/
theorem result_analyze (lenient : context.strict = false) (model : Model) :
    (analyze context model).result =
      .ok (Phase.runAll (Phase.standard context.rules false) { model }).analysis := by
  rw [analyze, lenient]
  rfl

/-! ## Listing and generating -/

/-- The order of a prepared model is listed, or the cycle that it has instead. -/
theorem result_emissionOrder
    (prepared : ((prepare FileSystem.access context).run files).1.result = .ok analysis) :
    ((emissionOrder FileSystem.access context).run files).1.result =
      match Order.order analysis.model.nodes with
      | .error cycle => .error (.cycle cycle)
      | .ok nodes => .ok (nodes.map Node.name) := by
  rw [emissionOrder, run_bind, prepared]
  cases found : Order.order analysis.model.nodes <;> simp only [found, run_pure]

/-- A run of a prepared model generates its artifacts. -/
theorem result_run
    (prepared : ((prepare FileSystem.access context).run files).1.result = .ok analysis) :
    ((run FileSystem.access context).run files).1.result =
      ((generate FileSystem.access context analysis).run files).1.result := by
  simp only [run, run_bind, run_pure, prepared, snd_run_prepare]

/-- A run of a prepared model leaves the files that generating leaves. -/
theorem snd_run
    (prepared : ((prepare FileSystem.access context).run files).1.result = .ok analysis) :
    ((run FileSystem.access context).run files).2 =
      ((generate FileSystem.access context analysis).run files).2 := by
  simp only [run, run_bind, run_pure, prepared, snd_run_prepare]

/-- The options with which a model is generated. -/
def optionsOf (context : Context) (model : Model) : Header.Options :=
  optionsFor context (Sha256.hexDigest model.write)

/-- The first attempt of a run: that at the declarations, with the output directory made. -/
def firstAttempt (files : FileSystem) (context : Context) (model : Model) : Attempt :=
  ((attempt FileSystem.access context (optionsOf context model) model .declarations).run
    (files.createDirectories context.outputDirectory).2).1

/-- The declarations are the first artifact that is tried. -/
theorem attempts_generate {report : Report}
    (generated : ((generate FileSystem.access context analysis).run files).1.result =
      .ok report) :
    ∃ others, report.attempts = firstAttempt files context analysis.model :: others := by
  rw [generate, run_bind, run_createDirectories] at generated
  cases created : (files.createDirectories context.outputDirectory).1 with
  | error fault =>
      rw [created] at generated
      cases generated
  | ok _ =>
      simp only [created, run_bind, run_pure, Artifact.all, List.mapM_cons] at generated
      obtain rfl := Except.ok.inj generated
      exact ⟨_, rfl⟩

/-- An attempt fails for the cycle if there is no text, and else for the fault with which
its file is not written. -/
theorem failure?_attempt (files : FileSystem) (context : Context) (options : Header.Options)
    (model : Model) (artifact : Artifact) :
    ((attempt FileSystem.access context options model artifact).run files).1.failure? =
      match artifact.render options model with
      | .error cycle => some cycle.message
      | .ok text =>
          match files.writeContent (context.artifactPath (artifact.file options)) (.text text) with
          | .ok _ => none
          | .error fault => some fault.message := by
  rw [attempt]
  cases artifact.render options model with
  | error cycle => rfl
  | ok text =>
      simp only [run_bind, run_write]
      cases files.writeContent (context.artifactPath (artifact.file options)) (.text text) <;> rfl

end ProtocolHeaders.Generation
