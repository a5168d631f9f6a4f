import Mathlib
import ProtocolHeaders.Proofs.Generation.Run
import ProtocolHeaders.Proofs.Model.File

/-!
# Runs that are stopped

A run is stopped by its model or by its output directory. The model stops it if its file cannot
be read, if the file holds no model, or if a phase rejects the model. All this comes before the
output directory is made, so a run that the model stops leaves the files exactly as they were.
-/

namespace ProtocolHeaders.Generation

/-- The model of a context stops every run with an error: its file cannot be read, or holds no
model, or a phase fails. -/
inductive ModelFault (files : FileSystem) (context : Context) : RunError -> Prop where
  | unread {fault} (failed : files.read context.modelPath = .error fault) :
      ModelFault files context (.file fault)
  | malformed {text error} (found : files.read context.modelPath = .ok text)
      (noModel : readModel context.schema text = .error error) :
      ModelFault files context (.json error)
  | rejected {text model failure} (found : files.read context.modelPath = .ok text)
      (read : readModel context.schema text = .ok model)
      (failed : (Phase.runAll (Phase.standard context.rules context.strict)
        { model }).failure? = some failure) :
      ModelFault files context (.phase failure)

/-- The model of a context passes, but the output directory cannot be made. -/
inductive DirectoryFault (files : FileSystem) (context : Context) : RunError -> Prop where
  | unmade {analysis fault}
      (prepared : ((prepare FileSystem.access context).run files).1.result = .ok analysis)
      (failed : (files.createDirectories context.outputDirectory).1 = .error fault) :
      DirectoryFault files context (.file fault)

variable {files : FileSystem} {context : Context} {analysis : Analysis} {error : RunError}

/-- An analysis fails exactly with the failure of a phase. -/
theorem result_analyze_eq_error_iff {model : Model} :
    (analyze context model).result = .error error ↔
      ∃ failure, error = .phase failure ∧
        (Phase.runAll (Phase.standard context.rules context.strict) { model }).failure? =
          some failure := by
  rw [analyze]
  cases failed : (Phase.runAll (Phase.standard context.rules context.strict)
      { model }).failure? with
  | none => simp
  | some failure => simp [eq_comm]

/-- A model is not prepared exactly if it has a fault. -/
theorem result_prepare_eq_error_iff :
    ((prepare FileSystem.access context).run files).1.result = .error error ↔
      ModelFault files context error := by
  constructor
  · intro stopped
    simp only [prepare, load, run_bind, run_read] at stopped
    cases found : files.read context.modelPath with
    | error fault =>
        simp only [found, run_pure] at stopped
        cases stopped
        exact .unread found
    | ok text =>
        simp only [found] at stopped
        cases read : readModel context.schema text with
        | error fault =>
            simp only [read, run_pure] at stopped
            cases stopped
            exact .malformed found read
        | ok model =>
            simp only [read, run_pure] at stopped
            obtain ⟨failure, rfl, failed⟩ := result_analyze_eq_error_iff.mp stopped
            exact .rejected found read failed
  · intro faulty
    cases faulty with
    | unread failed => simp only [prepare, load, run_bind, run_read, run_pure, failed]
    | malformed found noModel =>
        simp only [prepare, load, run_bind, run_read, run_pure, found, noModel]
    | rejected found read failed =>
        rw [result_prepare found read]
        exact result_analyze_eq_error_iff.mpr ⟨_, rfl, failed⟩

/-- A run is stopped with the error that the model meets, before it has changed anything. -/
theorem run_eq_of_not_prepared
    (stopped : ((prepare FileSystem.access context).run files).1.result = .error error) :
    ((run FileSystem.access context).run files).1.result = .error error ∧
      ((run FileSystem.access context).run files).2 = files := by
  simp only [run, run_bind, run_pure, stopped, snd_run_prepare, and_self]

/-- Generating fails only if the output directory cannot be made. -/
theorem createDirectories_of_generate
    (failed : ((generate FileSystem.access context analysis).run files).1.result =
      .error error) :
    ∃ fault, error = .file fault ∧
      (files.createDirectories context.outputDirectory).1 = .error fault := by
  rw [generate, run_bind, run_createDirectories] at failed
  cases created : (files.createDirectories context.outputDirectory).1 with
  | error fault =>
      rw [created] at failed
      cases failed
      exact ⟨fault, rfl, rfl⟩
  | ok _ =>
      simp only [created, run_bind, run_pure] at failed
      cases failed

/-- For every file system and every context: if the model file cannot be read or holds no model,
or if a phase fails, then a run is stopped with this error and leaves the file system exactly as
it was. Nothing else stops a run but an output directory that cannot be made. -/
theorem stopped_run_leaves_files (files : FileSystem) (context : Context) (error : RunError) :
    (ModelFault files context error ->
      ((run FileSystem.access context).run files).1.result = .error error ∧
        ((run FileSystem.access context).run files).2 = files) ∧
    (((run FileSystem.access context).run files).1.result = .error error ->
      ModelFault files context error ∨ DirectoryFault files context error) := by
  constructor
  · intro faulty
    exact run_eq_of_not_prepared (result_prepare_eq_error_iff.mpr faulty)
  · intro stopped
    cases prepared : ((prepare FileSystem.access context).run files).1.result with
    | error fault =>
        obtain ⟨sameError, -⟩ := run_eq_of_not_prepared prepared
        rw [sameError] at stopped
        cases stopped
        exact .inl (result_prepare_eq_error_iff.mp prepared)
    | ok analysis =>
        rw [result_run prepared] at stopped
        obtain ⟨fault, rfl, failed⟩ := createDirectories_of_generate stopped
        exact .inr (.unmade prepared failed)

/-- A model with an unknown base. -/
def unsoundModel : Model :=
  { interfaces := [{ name := "A", bases := ["Missing"] }] }

/-- Its file, next to an output directory with an old header. -/
def unsoundFiles : FileSystem :=
  { entries :=
      [(["model.json"], .file (.text unsoundModel.write)),
        (["generated"], .directory),
        (["generated", "types.h"], .file (.text "old"))] }

/-- A context in which findings are errors. -/
def strictContext : Context :=
  { Context.standard with strict := true }

theorem read_unsoundFiles :
    unsoundFiles.read strictContext.modelPath = .ok unsoundModel.write := by
  decide +kernel

/-- The unknown base stops a strict run, and the old header stays. -/
theorem unknown_base_leaves_old_header :
    ModelFault unsoundFiles strictContext (.phase (.invalid 1)) ∧
      ((run FileSystem.access strictContext).run unsoundFiles).1.result =
        .error (.phase (.invalid 1)) ∧
      ((run FileSystem.access strictContext).run unsoundFiles).2 = unsoundFiles := by
  have read : Model.read unsoundModel.write = .ok unsoundModel :=
    Model.read_write (by decide +kernel)
  have failed : (Phase.runAll (Phase.standard strictContext.rules true)
      { model := unsoundModel }).failure? = some (.invalid 1) := by cbv
  have faulty : ModelFault unsoundFiles strictContext (.phase (.invalid 1)) :=
    .rejected read_unsoundFiles read failed
  exact ⟨faulty, (stopped_run_leaves_files unsoundFiles strictContext _).1 faulty⟩

end ProtocolHeaders.Generation
