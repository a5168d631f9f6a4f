import ProtocolHeaders.Proofs.File.Directories
import ProtocolHeaders.Proofs.File.PlainNames
import ProtocolHeaders.Proofs.Generation.Run
import ProtocolHeaders.Proofs.Generation.Strictness

/-!
# Artifacts on a file system

A run tries its artifacts one after the other. An attempt either writes the text of its artifact
to the target of its path, or fails and leaves the files as they are. Nothing but this target
decides which. So a file stays as it is until an attempt leads to it, and the last one that does
decides what it holds in the end.
-/

namespace ProtocolHeaders.Generation

open File (Location)
open Header (Artifact)

/-- The path of an artifact of a context. -/
def Context.pathOf (context : Context) (artifact : Artifact) : String :=
  context.artifactPath (artifact.file context.options)

/-- The attempt at an artifact of a model, with the files that it leaves. -/
def tryOne (context : Context) (model : Model) (artifact : Artifact) (files : FileSystem) :
    Attempt × FileSystem :=
  (attempt FileSystem.access context (optionsOf context model) model artifact).run files

/-- The attempts at some artifacts of a model, with the files that they leave. -/
def tryAll (context : Context) (model : Model) (artifacts : List Artifact) (files : FileSystem) :
    List Attempt × FileSystem :=
  (artifacts.mapM (attempt FileSystem.access context (optionsOf context model) model)).run files

variable {context : Context} {model : Model} {artifact : Artifact} {files later : FileSystem}
  {location : Location}

/-- Every artifact is among those that a run makes. -/
theorem mem_all (artifact : Artifact) : artifact ∈ Artifact.all := by
  cases artifact <;> decide

/-! ## One attempt -/

/-- The digest of the model does not matter to the names of the files. -/
theorem file_optionsOf (context : Context) (model : Model) (artifact : Artifact) :
    artifact.file (optionsOf context model) = artifact.file context.options := by
  cases artifact <;> rfl

/-- An attempt renders an artifact, looks up its target, and writes the text there. -/
theorem tryOne_eq (context : Context) (model : Model) (artifact : Artifact) (files : FileSystem) :
    let file := artifact.file context.options
    let path := context.pathOf artifact
    let rendering := artifact.events (optionsOf context model) model
    let failed (reason : String) : Attempt :=
      ⟨file, path, some reason, rendering ++ [.artifactFailed file reason]⟩
    tryOne context model artifact files =
      match artifact.render (optionsOf context model) model with
      | .error cycle => (failed cycle.message, files)
      | .ok text =>
          match files.target path with
          | .error fault => (failed fault.message, files)
          | .ok location =>
              (⟨file, path, none, rendering ++ [.wrote path]⟩,
                files.put location (.file (.text text))) := by
  simp only [tryOne, attempt, file_optionsOf, Context.pathOf]
  cases artifact.render (optionsOf context model) model with
  | error cycle => rfl
  | ok text =>
      simp only [run_bind, run_write, FileSystem.writeContent_eq_map_target]
      cases files.target (context.artifactPath (artifact.file context.options)) <;> rfl

/-- An attempt is made at the path of its artifact. -/
theorem path_tryOne : (tryOne context model artifact files).1.path = context.pathOf artifact := by
  rw [tryOne_eq]
  split
  · rfl
  · split <;> rfl

/-- An attempt tells the file of its artifact. -/
theorem artifact_tryOne :
    (tryOne context model artifact files).1.artifact = artifact.file context.options := by
  rw [tryOne_eq]
  split
  · rfl
  · split <;> rfl

/-- An attempt writes the text of its artifact to the target of its path, or else it fails and
changes nothing. -/
theorem tryOne_cases (context : Context) (model : Model) (artifact : Artifact)
    (files : FileSystem) :
    (∃ text location, artifact.render (optionsOf context model) model = .ok text ∧
      files.target (context.pathOf artifact) = .ok location ∧
      (tryOne context model artifact files).1.failure? = none ∧
      (tryOne context model artifact files).2 = files.put location (.file (.text text))) ∨
    ((tryOne context model artifact files).1.failure? ≠ none ∧
      (tryOne context model artifact files).2 = files) := by
  rw [tryOne_eq]
  cases artifact.render (optionsOf context model) model with
  | error cycle => exact .inr ⟨nofun, rfl⟩
  | ok text =>
      cases found : files.target (context.pathOf artifact) with
      | error fault => exact .inr ⟨nofun, rfl⟩
      | ok location => exact .inl ⟨text, location, rfl, rfl, rfl, rfl⟩

/-- Nothing but the target of its path matters to an attempt. -/
theorem fst_tryOne_congr
    (same : later.target (context.pathOf artifact) = files.target (context.pathOf artifact)) :
    (tryOne context model artifact later).1 = (tryOne context model artifact files).1 := by
  rw [tryOne_eq, tryOne_eq, same]
  cases artifact.render (optionsOf context model) model with
  | error cycle => rfl
  | ok text => cases files.target (context.pathOf artifact) <;> rfl

/-- An attempt keeps what is there. -/
theorem keeps_tryOne : files.Keeps (tryOne context model artifact files).2 := by
  rcases tryOne_cases context model artifact files with
    ⟨text, location, -, found, -, written⟩ | ⟨-, unchanged⟩
  · rw [written]
    exact FileSystem.keeps_put_target found _
  · rw [unchanged]
    exact .refl files

/-! ## One attempt after the other -/

/-- The first attempt is made before the others. -/
theorem tryAll_cons (others : List Artifact) :
    tryAll context model (artifact :: others) files =
      let first := tryOne context model artifact files
      let rest := tryAll context model others first.2
      (first.1 :: rest.1, rest.2) := by
  rw [tryAll, List.mapM_cons]
  rfl

/-- Artifacts are tried in order, so the first ones are done before the others. -/
theorem tryAll_append (first second : List Artifact) :
    tryAll context model (first ++ second) files =
      let before := tryAll context model first files
      let behind := tryAll context model second before.2
      (before.1 ++ behind.1, behind.2) := by
  rw [tryAll, List.mapM_append]
  rfl

/-- An attempt is tried on the files that the attempts before it leave. -/
theorem tryOne_mem_tryAll {earlier others : List Artifact} :
    (tryOne context model artifact (tryAll context model earlier files).2).1 ∈
      (tryAll context model (earlier ++ artifact :: others) files).1 := by
  simp only [tryAll_append, tryAll_cons]
  exact List.mem_append_right _ List.mem_cons_self

/-- There is one attempt for each artifact, in order. -/
theorem map_path_tryAll (artifacts : List Artifact) :
    (tryAll context model artifacts files).1.map Attempt.path =
      artifacts.map context.pathOf := by
  induction artifacts generalizing files with
  | nil => rfl
  | cons artifact others inductionHypothesis =>
      rw [tryAll_cons, List.map_cons, List.map_cons, path_tryOne, inductionHypothesis]

/-- Attempts keep what is there. -/
theorem keeps_tryAll (artifacts : List Artifact) :
    files.Keeps (tryAll context model artifacts files).2 := by
  induction artifacts generalizing files with
  | nil => exact .refl files
  | cons artifact others inductionHypothesis =>
      rw [tryAll_cons]
      exact keeps_tryOne.trans inductionHypothesis

/-- What is written stands in the end where its path leads. -/
theorem resolve_tryAll_of_target {artifacts : List Artifact} {content : File.Content}
    (found : files.target (context.pathOf artifact) = .ok location) :
    (tryAll context model artifacts (files.put location (.file content))).2.resolve
      (context.pathOf artifact) = .ok location := by
  have keepsOn : (files.put location (.file content)).Keeps
      (tryAll context model artifacts (files.put location (.file content))).2 :=
    keeps_tryAll artifacts
  refine FileSystem.resolve_of_target found
    ((FileSystem.keeps_put_target found _).trans keepsOn) (keepsOn.present location ?_)
  rw [FileSystem.entry?_put_target found, if_pos rfl]
  rfl

/-- What stands at a location stays there unless an attempt succeeds whose path leads there. -/
theorem entry?_tryAll {artifacts : List Artifact}
    (apart : ∀ attempt ∈ (tryAll context model artifacts files).1, attempt.failure? = none ->
      (tryAll context model artifacts files).2.resolve attempt.path ≠ .ok location) :
    FileSystem.entry? (tryAll context model artifacts files).2 location =
      files.entry? location := by
  induction artifacts generalizing files with
  | nil => rfl
  | cons artifact others inductionHypothesis =>
      simp only [tryAll_cons, List.forall_mem_cons, path_tryOne] at apart ⊢
      obtain ⟨firstApart, othersApart⟩ := apart
      rw [inductionHypothesis othersApart]
      rcases tryOne_cases context model artifact files with
        ⟨text, target, -, found, succeeded, written⟩ | ⟨-, unchanged⟩
      · -- The path still leads to the target in the end, so the location is another one.
        have away : location ≠ target := by
          rintro rfl
          refine firstApart succeeded ?_
          rw [written]
          exact resolve_tryAll_of_target found
        rw [written, FileSystem.entry?_put_target found, if_neg away]
      · rw [unchanged]

/-- The text of an artifact that is written stands in the end where its path leads, unless the
path of a later artifact leads there too. -/
theorem exists_entry?_tryAll (earlier others : List Artifact)
    (succeeded : (tryOne context model artifact
      (tryAll context model earlier files).2).1.failure? = none)
    (last : ∀ other ∈ others, ∀ location,
      (tryAll context model (earlier ++ artifact :: others) files).2.resolve
          (context.pathOf artifact) = .ok location ->
        (tryAll context model (earlier ++ artifact :: others) files).2.resolve
          (context.pathOf other) ≠ .ok location) :
    ∃ text location, artifact.render (optionsOf context model) model = .ok text ∧
      (tryAll context model (earlier ++ artifact :: others) files).2.resolve
        (context.pathOf artifact) = .ok location ∧
      FileSystem.entry? (tryAll context model (earlier ++ artifact :: others) files).2 location =
        some (.file (.text text)) := by
  simp only [tryAll_append, tryAll_cons] at last ⊢
  rcases tryOne_cases context model artifact (tryAll context model earlier files).2 with
    ⟨text, location, rendered, found, -, written⟩ | ⟨failed, -⟩
  · rw [written] at last ⊢
    have arrives : (tryAll context model others
        ((tryAll context model earlier files).2.put location (.file (.text text)))).2.resolve
          (context.pathOf artifact) = .ok location := resolve_tryAll_of_target found
    refine ⟨text, location, rendered, arrives, ?_⟩
    -- The attempts behind this one start from files in which the text stands.
    rw [entry?_tryAll, FileSystem.entry?_put_target found, if_pos rfl]
    intro attempt tried _
    have listed := List.mem_map_of_mem (f := Attempt.path) tried
    rw [map_path_tryAll] at listed
    obtain ⟨other, behind, path⟩ := List.mem_map.mp listed
    rw [← path]
    exact last other behind location arrives
  · exact absurd succeeded failed

/-! ## Files of one directory -/

/-- An attempt at an artifact of a plain name does not matter to where others of plain names are
written. -/
theorem target_tryOne (plain : IsPlainName (artifact.file context.options)) {other : String}
    (otherPlain : IsPlainName other) :
    (tryOne context model artifact files).2.target (Path.join context.outputDirectory other) =
      files.target (Path.join context.outputDirectory other) := by
  rcases tryOne_cases context model artifact files with
    ⟨text, location, -, found, -, written⟩ | ⟨-, unchanged⟩
  · rw [written]
    exact FileSystem.target_join_put plain otherPlain found _
  · rw [unchanged]

/-- Attempts do not change where a file is written. -/
theorem target_tryAll {artifacts : List Artifact}
    (plain : ∀ artifact ∈ artifacts, IsPlainName (artifact.file context.options))
    {other : String} (otherPlain : IsPlainName other) :
    (tryAll context model artifacts files).2.target (Path.join context.outputDirectory other) =
      files.target (Path.join context.outputDirectory other) := by
  induction artifacts generalizing files with
  | nil => rfl
  | cons artifact others inductionHypothesis =>
      obtain ⟨firstPlain, othersPlain⟩ := List.forall_mem_cons.mp plain
      rw [tryAll_cons, inductionHypothesis othersPlain, target_tryOne firstPlain otherPlain]

/-- Artifacts of plain names are each written, or fail, as if there were no others. -/
theorem fst_tryAll {artifacts : List Artifact}
    (plain : ∀ artifact ∈ artifacts, IsPlainName (artifact.file context.options)) :
    (tryAll context model artifacts files).1 =
      artifacts.map fun artifact => (tryOne context model artifact files).1 := by
  induction artifacts generalizing files with
  | nil => rfl
  | cons artifact others inductionHypothesis =>
      obtain ⟨firstPlain, othersPlain⟩ := List.forall_mem_cons.mp plain
      rw [tryAll_cons, List.map_cons, List.cons_eq_cons, inductionHypothesis othersPlain]
      refine ⟨rfl, List.map_congr_left fun other listed => ?_⟩
      exact fst_tryOne_congr (target_tryOne firstPlain (othersPlain other listed))

/-! ## Whole runs -/

/-- A model is that of the model file of a context, cleaned by its rules. -/
def IsCleanedModel (files : FileSystem) (context : Context) (cleaned : Model) : Prop :=
  ∃ text model, files.read context.modelPath = .ok text ∧
    readModel context.schema text = .ok model ∧
    cleaned = (Cleanup.clean context.rules model).model

/-- The model of a run is that of its model file, cleaned. -/
theorem isCleanedModel_of_prepared {analysis : Analysis}
    (prepared : ((prepare FileSystem.access context).run files).1.result = .ok analysis) :
    IsCleanedModel files context analysis.model := by
  simp only [prepare, load, run_bind, run_read] at prepared
  cases found : files.read context.modelPath with
  | error fault =>
      rw [found] at prepared
      cases prepared
  | ok text =>
      simp only [found] at prepared
      cases read : readModel context.schema text with
      | error error =>
          rw [read] at prepared
          cases prepared
      | ok model =>
          simp only [read, run_pure] at prepared
          exact ⟨text, model, found, read, model_of_result_analyze prepared⟩

/-- Once the output directory is made, all artifacts are tried. -/
theorem run_generate (analysis : Analysis) {made : FileSystem}
    (created : files.createDirectories context.outputDirectory = (.ok (), made)) :
    ((generate FileSystem.access context analysis).run files).1.result =
        .ok ⟨Sha256.hexDigest analysis.model.write,
          (tryAll context analysis.model Artifact.all made).1, analysis.warnings⟩ ∧
      ((generate FileSystem.access context analysis).run files).2 =
        (tryAll context analysis.model Artifact.all made).2 := by
  simp only [generate, run_bind, run_pure, run_createDirectories, created, tryAll, optionsOf,
    and_self]

/-- A run that is not stopped has made the output directory and tried all artifacts of the
cleaned model. -/
theorem exists_tryAll_of_run {report : Report}
    (reported : ((run FileSystem.access context).run files).1.result = .ok report) :
    ∃ cleaned, IsCleanedModel files context cleaned ∧
      report.checksum = Sha256.hexDigest cleaned.write ∧
      tryAll context cleaned Artifact.all
          (files.createDirectories context.outputDirectory).2 =
        (report.attempts, ((run FileSystem.access context).run files).2) := by
  cases prepared : ((prepare FileSystem.access context).run files).1.result with
  | error error =>
      simp only [run, run_bind, prepared] at reported
      cases reported
  | ok analysis =>
      rw [result_run prepared] at reported
      rw [snd_run prepared]
      refine ⟨analysis.model, isCleanedModel_of_prepared prepared, ?_⟩
      rcases created : files.createDirectories context.outputDirectory with ⟨fault | _, made⟩
      · simp only [generate, run_bind, run_createDirectories, created] at reported
        cases reported
      · obtain ⟨generated, left⟩ := run_generate analysis created
        rw [generated] at reported
        obtain rfl := Except.ok.inj reported
        simp only [left, and_self]

/-- A run with a result that passes a test has a report that passes it. -/
theorem exists_report (files : FileSystem) (context : Context) (test : Report -> Bool)
    (passes : ((run FileSystem.access context).run files).1.result.toOption.any test = true) :
    ∃ report, ((run FileSystem.access context).run files).1.result = .ok report ∧
      test report = true := by
  cases reported : ((run FileSystem.access context).run files).1.result with
  | error error =>
      rw [reported] at passes
      cases passes
  | ok report =>
      rw [reported] at passes
      exact ⟨report, rfl, passes⟩

end ProtocolHeaders.Generation
