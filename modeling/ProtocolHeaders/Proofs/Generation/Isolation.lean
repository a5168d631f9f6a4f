import Mathlib.Data.List.Nodup
import ProtocolHeaders.Proofs.Generation.Artifacts

/-!
# Failures of artifacts

An artifact fails if it cannot be rendered or if its file cannot be written. When the files of
the artifacts have plain names, each its own, neither depends on the other artifacts: each is
written or fails as if it were the only one. The file of one that is written holds its text in
the end, and one that fails leaves its file as it was before the run.
-/

namespace ProtocolHeaders.Generation

open File (Location)
open Header (Artifact)

/-- Why an artifact of a model is not written, if it is not: it has no text, or its file cannot be
written. -/
def obstacle? (files : FileSystem) (context : Context) (model : Model) (artifact : Artifact) :
    Option String :=
  match artifact.render (optionsOf context model) model with
  | .error cycle => some cycle.message
  | .ok text =>
      match files.writeContent (context.pathOf artifact) (.text text) with
      | .ok _ => none
      | .error fault => some fault.message

/-- The file at a path is left as it was: what a path led to stays there, and a file that it
leads to is not new. -/
structure LeavesFile (files later : FileSystem) (path : String) : Prop where
  kept : ∀ entry, files.atPath? path = some entry -> later.atPath? path = some entry
  notNew : ∀ location content, later.resolve path = .ok location ->
    later.entry? location = some (.file content) -> files.entry? location = some (.file content)

/-- The artifacts of a model are each written or fail as if there were no others. The attempts
start from files in which the output directory is made, and leave later ones. -/
structure IsolatesFailures (files made later : FileSystem) (context : Context) (model : Model)
    (report : Report) : Prop where
  /-- Each artifact is listed once, either as written or as failed, in the order in which they
  are generated. -/
  distinct : (Artifact.all.map context.pathOf).Nodup
  written : report.written = (Artifact.all.filter fun artifact =>
    (obstacle? made context model artifact).isNone).map context.pathOf
  failed : report.failed = Artifact.all.filterMap fun artifact =>
    (obstacle? made context model artifact).map fun reason =>
      (artifact.file context.options, reason)
  /-- An artifact is written exactly if it has a text and this can be written by itself. -/
  written_iff : ∀ artifact, context.pathOf artifact ∈ report.written ↔
    ∃ text, artifact.render (optionsOf context model) model = .ok text ∧
      ∃ after, made.writeContent (context.pathOf artifact) (.text text) = .ok after
  holds : ∀ artifact, context.pathOf artifact ∈ report.written -> ∃ text,
    artifact.render (optionsOf context model) model = .ok text ∧
      later.read (context.pathOf artifact) = .ok text
  leaves : ∀ artifact, context.pathOf artifact ∉ report.written ->
    LeavesFile files later (context.pathOf artifact)

variable {files made later : FileSystem} {context : Context} {model : Model} {artifact : Artifact}
  {location : Location}

theorem obstacle?_eq_none_iff : obstacle? files context model artifact = none ↔
    ∃ text, artifact.render (optionsOf context model) model = .ok text ∧
      ∃ after, files.writeContent (context.pathOf artifact) (.text text) = .ok after := by
  rw [obstacle?]
  cases artifact.render (optionsOf context model) model with
  | error cycle => simp
  | ok text =>
      cases written : files.writeContent (context.pathOf artifact) (.text text) <;>
        simp [written]

/-- An attempt fails for the obstacle that an artifact has. -/
theorem failure?_tryOne :
    (tryOne context model artifact files).1.failure? = obstacle? files context model artifact := by
  rw [tryOne, failure?_attempt, file_optionsOf]
  rfl

/-! ## Reports -/

/-- What attempts that do not depend on each other list as written. -/
theorem written_eq {report : Report} {artifacts : List Artifact}
    (attempts : report.attempts =
      artifacts.map fun artifact => (tryOne context model artifact files).1) :
    report.written = (artifacts.filter fun artifact =>
      (obstacle? files context model artifact).isNone).map context.pathOf := by
  simp only [Report.written, attempts, List.filter_map, List.map_map, Function.comp_def,
    failure?_tryOne, path_tryOne]

/-- What attempts that do not depend on each other list as failed. -/
theorem failed_eq {report : Report} {artifacts : List Artifact}
    (attempts : report.attempts =
      artifacts.map fun artifact => (tryOne context model artifact files).1) :
    report.failed = artifacts.filterMap fun artifact =>
      (obstacle? files context model artifact).map fun reason =>
        (artifact.file context.options, reason) := by
  simp only [Report.failed, attempts, List.filterMap_map, Function.comp_def, failure?_tryOne,
    artifact_tryOne]

/-! ## Files that are left -/

/-- Directories that are made leave a file as it is, and so does what then leaves all locations as
they are to which its path leads in the end. -/
theorem leavesFile_of_gainsDirectories {path : String} (gains : files.GainsDirectories made)
    (keeps : made.Keeps later)
    (unchanged : ∀ location, later.resolve path = .ok location ->
      later.entry? location = made.entry? location) : LeavesFile files later path := by
  constructor
  case kept =>
    intro entry stands
    rw [FileSystem.atPath?] at stands ⊢
    cases resolved : files.resolve path with
    | error fault =>
        rw [resolved] at stands
        cases stands
    | ok location =>
        rw [resolved] at stands
        have arrives := (gains.keeps.trans keeps).resolve_eq_ok resolved
        rw [arrives]
        exact (unchanged location arrives).trans (gains.entry?_eq_some stands)
  case notNew =>
    intro location content arrives stands
    rw [unchanged location arrives] at stands
    exact gains.entry?_eq_file stands

/-! ## Names of one directory -/

variable (plain : ∀ artifact ∈ Artifact.all, IsPlainName (artifact.file context.options))
  (distinct : (Artifact.all.map (·.file context.options)).Nodup)

include distinct

/-- Two artifacts of one file name are the same. -/
theorem eq_of_file_eq {other : Artifact}
    (same : artifact.file context.options = other.file context.options) : artifact = other :=
  List.inj_on_of_nodup_map distinct (mem_all artifact) (mem_all other) same

include plain

/-- Two artifacts of one path are the same. -/
theorem pathOf_injective : Function.Injective context.pathOf := fun artifact other same =>
  eq_of_file_eq distinct <|
    Path.eq_of_join_eq (plain artifact (mem_all artifact)) (plain other (mem_all other)) same

/-- Two artifacts whose paths lead to one location are the same. -/
theorem eq_of_resolve_pathOf {other : Artifact}
    (resolved : files.resolve (context.pathOf artifact) = .ok location)
    (otherResolved : files.resolve (context.pathOf other) = .ok location) : artifact = other :=
  eq_of_file_eq distinct <|
    FileSystem.eq_of_resolve_join (plain artifact (mem_all artifact))
      (plain other (mem_all other)) resolved otherResolved

/-- An artifact without an obstacle has its text in its file in the end. -/
theorem exists_read_tryAll (free : obstacle? made context model artifact = none) :
    ∃ text, artifact.render (optionsOf context model) model = .ok text ∧
      (tryAll context model Artifact.all made).2.read (context.pathOf artifact) = .ok text := by
  obtain ⟨earlier, others, listed⟩ := List.append_of_mem (mem_all artifact)
  have apart : artifact ∉ others := by
    have allOnce : (earlier ++ artifact :: others).Nodup := listed ▸ (by decide)
    exact (List.nodup_cons.mp (List.nodup_append.mp allOnce).2.1).1
  have earlierPlain : ∀ artifact ∈ earlier, IsPlainName (artifact.file context.options) :=
    fun artifact _ => plain artifact (mem_all artifact)
  have succeeded : (tryOne context model artifact
      (tryAll context model earlier made).2).1.failure? = none := by
    rw [fst_tryOne_congr (target_tryAll earlierPlain (plain artifact (mem_all artifact))),
      failure?_tryOne, free]
  obtain ⟨text, location, rendered, resolved, stands⟩ :=
    exists_entry?_tryAll earlier others succeeded fun other behind location here there => by
      obtain rfl := eq_of_resolve_pathOf plain distinct here there
      exact apart behind
  rw [← listed] at resolved stands
  exact ⟨text, rendered, FileSystem.read_of_resolve resolved stands⟩

/-- Where the path of an artifact with an obstacle leads, nothing is changed. -/
theorem entry?_tryAll_of_obstacle? (hindered : obstacle? made context model artifact ≠ none)
    (resolved : (tryAll context model Artifact.all made).2.resolve (context.pathOf artifact) =
      .ok location) :
    FileSystem.entry? (tryAll context model Artifact.all made).2 location =
      made.entry? location := by
  refine entry?_tryAll fun attempt tried succeeded leads => ?_
  rw [fst_tryAll plain] at tried
  obtain ⟨other, -, rfl⟩ := List.mem_map.mp tried
  rw [path_tryOne] at leads
  obtain rfl := eq_of_resolve_pathOf plain distinct resolved leads
  rw [failure?_tryOne] at succeeded
  exact hindered succeeded

omit plain distinct

/-- For every file system and every context whose artifacts have plain names, each its own: a run
that is not stopped writes each artifact or lists it as failed, as if there were no others. What
it writes is found in the files in the end, and what fails leaves its file as it was before the
run. -/
theorem artifact_failures_are_isolated (files : FileSystem) (context : Context) (report : Report)
    (plain : ∀ artifact ∈ Artifact.all, IsPlainName (artifact.file context.options))
    (distinct : (Artifact.all.map (·.file context.options)).Nodup)
    (reported : ((run FileSystem.access context).run files).1.result = .ok report) :
    ∃ cleaned, IsCleanedModel files context cleaned ∧
      report.checksum = Sha256.hexDigest cleaned.write ∧
      IsolatesFailures files (files.createDirectories context.outputDirectory).2
        ((run FileSystem.access context).run files).2 context cleaned report := by
  obtain ⟨cleaned, isCleaned, digest, tried⟩ := exists_tryAll_of_run reported
  refine ⟨cleaned, isCleaned, digest, ?_⟩
  have gains := FileSystem.gainsDirectories_createDirectories files context.outputDirectory
  generalize (files.createDirectories context.outputDirectory).2 = made at tried gains ⊢
  obtain ⟨attempts, left⟩ := Prod.ext_iff.mp tried
  rw [fst_tryAll plain] at attempts
  have written := written_eq attempts.symm
  have pathsApart := pathOf_injective plain distinct
  have mem_written_iff : ∀ artifact, context.pathOf artifact ∈ report.written ↔
      obstacle? made context cleaned artifact = none := fun artifact => by
    rw [written, List.mem_map_of_injective pathsApart, List.mem_filter, Option.isNone_iff_eq_none]
    exact and_iff_right (mem_all artifact)
  rw [← left]
  constructor
  case distinct => exact List.Nodup.map pathsApart (by decide)
  case written => exact written
  case failed => exact failed_eq attempts.symm
  case written_iff =>
    exact fun artifact => (mem_written_iff artifact).trans obstacle?_eq_none_iff
  case holds =>
    exact fun artifact listed =>
      exists_read_tryAll plain distinct ((mem_written_iff artifact).mp listed)
  case leaves =>
    intro artifact unlisted
    have hindered := (mem_written_iff artifact).not.mp unlisted
    exact leavesFile_of_gainsDirectories gains (keeps_tryAll Artifact.all) fun location =>
      entry?_tryAll_of_obstacle? plain distinct hindered

/-- A model file whose interfaces depend on each other, next to an output directory with an old
file in the place of the declarations and a directory in that of the bindings. -/
def troubledFiles : FileSystem :=
  { entries :=
      [(["model.json"], .file (.text ("\x7b\"interfaces\":[" ++
          "\x7b\"name\":\"A\",\"dependencies\":[\"B\"]\x7d," ++
          "\x7b\"name\":\"B\",\"dependencies\":[\"A\"]\x7d]\x7d"))),
        (["generated"], .directory),
        (["generated", "types.h"], .file (.text "old")),
        (["generated", "types_json.h"], .directory)] }

/-- The declarations have a cycle and the bindings no file, but the messages are written, and
the old declarations stay. -/
theorem troubled_artifacts_are_isolated :
    (∀ artifact ∈ Artifact.all, IsPlainName (artifact.file Context.standard.options)) ∧
      (Artifact.all.map (·.file Context.standard.options)).Nodup ∧
      ∃ report, ((run FileSystem.access .standard).run troubledFiles).1.result = .ok report ∧
        report.written = ["generated/notifications.h", "generated/requests.h"] ∧
        report.failed.map Prod.fst = ["types.h", "types_json.h"] ∧
        ((run FileSystem.access .standard).run troubledFiles).2.atPath? "generated/types.h" =
          some (.file (.text "old")) ∧
        ∃ text, ((run FileSystem.access .standard).run troubledFiles).2.read
          "generated/requests.h" = .ok text := by
  have plain : ∀ artifact ∈ Artifact.all,
      IsPlainName (artifact.file Context.standard.options) := by decide +kernel
  have distinct : (Artifact.all.map (·.file Context.standard.options)).Nodup := by
    decide +kernel
  obtain ⟨report, reported, lists⟩ :=
    exists_report troubledFiles .standard
      (fun report => report.written = ["generated/notifications.h", "generated/requests.h"] ∧
        report.failed.map Prod.fst = ["types.h", "types_json.h"])
      (by decide +kernel)
  obtain ⟨written, failed⟩ := of_decide_eq_true lists
  obtain ⟨cleaned, -, -, isolated⟩ :=
    artifact_failures_are_isolated troubledFiles .standard report plain distinct reported
  have declarations : Context.pathOf .standard .declarations = "generated/types.h" := by
    decide +kernel
  have requests : Context.pathOf .standard .requests = "generated/requests.h" := by
    decide +kernel
  refine ⟨plain, distinct, report, reported, written, failed, ?_, ?_⟩
  · rw [← declarations]
    refine (isolated.leaves .declarations ?_).kept _ (by decide +kernel)
    rw [declarations, written]
    decide
  · rw [← requests]
    obtain ⟨text, -, read⟩ := isolated.holds .requests (by rw [requests, written]; decide)
    exact ⟨text, read⟩

end ProtocolHeaders.Generation
