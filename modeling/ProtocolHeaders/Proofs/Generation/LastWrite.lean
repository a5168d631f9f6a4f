import ProtocolHeaders.Proofs.Generation.Artifacts
import ProtocolHeaders.Proofs.Header.Tidy

/-!
# The texts that a run leaves

The files of the artifacts are named freely, so the paths of two artifacts may lead to one file.
No run looks for that: each artifact replaces what its file held before, also if this is the text
of another artifact, and counts as written. After a run without failures the last artifact whose
path leads to a file decides what the file holds.
-/

namespace ProtocolHeaders.Generation

open Header (Artifact)

/-- The last artifact of a run whose path leads where a path leads. -/
def lastAt? (files : FileSystem) (context : Context) (path : String) : Option Artifact :=
  Artifact.all.reverse.find? fun artifact =>
    decide (files.resolve (context.pathOf artifact) = files.resolve path)

variable {files : FileSystem} {context : Context}

/-- The last artifact at the path of an artifact comes behind all others that lead there. -/
theorem exists_append_of_lastAt? {path : String} {owner : Artifact}
    (found : lastAt? files context path = some owner) :
    files.resolve (context.pathOf owner) = files.resolve path ∧
      ∃ earlier others, Artifact.all = earlier ++ owner :: others ∧
        ∀ other ∈ others, files.resolve (context.pathOf other) ≠ files.resolve path := by
  obtain ⟨leads, behind, before, listed, apart⟩ := List.find?_eq_some_iff_append.mp found
  refine ⟨of_decide_eq_true leads, before.reverse, behind.reverse, ?_, fun other mem => ?_⟩
  · rw [← List.reverse_reverse Artifact.all, listed]
    simp
  · simpa using apart other (List.mem_reverse.mp mem)

/-- The path of an artifact has a last writer. -/
theorem exists_lastAt? (files : FileSystem) (context : Context) (artifact : Artifact) :
    ∃ owner, lastAt? files context (context.pathOf artifact) = some owner := by
  rw [← Option.isSome_iff_exists, lastAt?, List.find?_isSome]
  exact ⟨artifact, List.mem_reverse.mpr (mem_all artifact), by simp⟩

/-- The requests come last. -/
theorem lastAt?_eq_requests {path : String}
    (leads : files.resolve (context.pathOf .requests) = files.resolve path) :
    lastAt? files context path = some .requests :=
  List.find?_cons_of_pos (decide_eq_true leads)

/-- Without failures every attempt succeeded. -/
theorem failure?_eq_none {report : Report} (noFailures : report.failed = []) {attempt : Attempt}
    (tried : attempt ∈ report.attempts) : attempt.failure? = none := by
  have listsNone := List.filterMap_eq_nil_iff.mp noFailures attempt tried
  simpa using listsNone

/-- For every file system and every context for which a run has no failures, the file at the
path of each artifact holds the text that is rendered, for the cleaned model with the digest of
the run, by the last artifact whose path leads to this file. -/
theorem files_hold_last_texts (files : FileSystem) (context : Context) (report : Report)
    (reported : ((run FileSystem.access context).run files).1.result = .ok report)
    (noFailures : report.failed = []) :
    let later := ((run FileSystem.access context).run files).2
    ∃ cleaned, IsCleanedModel files context cleaned ∧
      report.checksum = Sha256.hexDigest cleaned.write ∧
      ∀ artifact : Artifact, ∃ owner text,
        lastAt? later context (context.pathOf artifact) = some owner ∧
          owner.render (optionsFor context report.checksum) cleaned = .ok text ∧
          later.read (context.pathOf artifact) = .ok text := by
  intro later
  obtain ⟨cleaned, isCleaned, digest, tried⟩ := exists_tryAll_of_run reported
  refine ⟨cleaned, isCleaned, digest, fun artifact => ?_⟩
  obtain ⟨owner, found⟩ := exists_lastAt? later context artifact
  obtain ⟨leads, earlier, others, listed, apart⟩ := exists_append_of_lastAt? found
  rw [listed] at tried
  have succeeded : (tryOne context cleaned owner (tryAll context cleaned earlier
      (files.createDirectories context.outputDirectory).2).2).1.failure? = none := by
    have attempts : (tryAll context cleaned (earlier ++ owner :: others) _).1 = report.attempts :=
      congrArg Prod.fst tried
    refine failure?_eq_none noFailures ?_
    rw [← attempts]
    exact tryOne_mem_tryAll
  obtain ⟨text, location, rendered, resolved, stands⟩ :=
    exists_entry?_tryAll earlier others succeeded (by
      rw [tried, leads]
      exact fun other behind location here there => apart other behind (there.trans here.symm))
  rw [tried] at resolved stands
  refine ⟨owner, text, found, ?_, ?_⟩
  · rw [digest]
    exact rendered
  · exact FileSystem.read_of_resolve (leads.symm.trans resolved) stands

/-! ## Two artifacts of one name -/

/-- The headers of the notifications and of the requests of a run are never one text. -/
theorem renderNotifications_ne_renderRequests (options : Header.Options)
    (model other : Model) :
    Header.Messages.renderNotifications options model ≠
      Header.Messages.renderRequests options other := by
  intro same
  obtain ⟨rest, otherRest, agree⟩ := Header.exists_append_eq_append same
  -- The seven characters behind the opening quote are not those of the other file's name.
  have sameStart := congrArg (List.take 31) agree
  rw [List.take_append_of_le_length (by decide +kernel),
    List.take_append_of_le_length (by decide +kernel)] at sameStart
  revert sameStart
  decide +kernel

/-- A context in which the notifications and the requests have one file. -/
def sharingContext : Context :=
  .ofSettings { output := { notifications := "messages.h", requests := "messages.h" } }

/-- A model with a notification and a request. -/
def messagingModel : Model :=
  { requests := [{ method := "textDocument/hover" }]
    notifications := [{ method := "window/logMessage" }] }

/-- The text of a model file. -/
def messagingText : String :=
  "\x7b\"requests\":[\x7b\"method\":\"textDocument/hover\"\x7d]," ++
    "\"notifications\":[\x7b\"method\":\"window/logMessage\"\x7d]\x7d"

/-- A file system that holds the text of the model as a model file. -/
def messagingFiles : FileSystem :=
  { entries := [(["model.json"], .file (.text messagingText))] }

/-- A cleanup leaves the model as it is. -/
theorem cleaned_messagingModel {cleaned : Model}
    (isCleaned : IsCleanedModel messagingFiles sharingContext cleaned) :
    cleaned = messagingModel := by
  obtain ⟨text, model, found, read, rfl⟩ := isCleaned
  have foundText : messagingFiles.read sharingContext.modelPath = .ok messagingText := by
    decide +kernel
  obtain rfl := Except.ok.inj (found.symm.trans foundText)
  have readText : readModel sharingContext.schema messagingText = .ok messagingModel := by
    decide +kernel
  obtain rfl := Except.ok.inj (read.symm.trans readText)
  decide +kernel

/-- A run writes all its artifacts. -/
theorem exists_report_messagingFiles :
    ∃ report, ((run FileSystem.access sharingContext).run messagingFiles).1.result = .ok report ∧
      report.failed = [] := by
  obtain ⟨report, reported, succeeded⟩ :=
    exists_report messagingFiles sharingContext Report.isSuccess (by decide +kernel)
  exact ⟨report, reported, List.isEmpty_iff.mp succeeded⟩

/-- The file that both share holds the text of the requests, which come last. -/
theorem shared_file_holds_requests :
    ∃ report, ((run FileSystem.access sharingContext).run messagingFiles).1.result =
        .ok report ∧ report.failed = [] ∧
      ((run FileSystem.access sharingContext).run messagingFiles).2.read
          (sharingContext.pathOf .notifications) =
        .ok (Header.Messages.renderRequests
          (optionsFor sharingContext report.checksum) messagingModel) := by
  obtain ⟨report, reported, noFailures⟩ := exists_report_messagingFiles
  obtain ⟨cleaned, isCleaned, -, holds⟩ :=
    files_hold_last_texts messagingFiles sharingContext report reported noFailures
  obtain ⟨owner, text, last, rendered, read⟩ := holds .notifications
  obtain rfl := cleaned_messagingModel isCleaned
  have onePath : sharingContext.pathOf .requests = sharingContext.pathOf .notifications := rfl
  obtain rfl := Option.some.inj (last.symm.trans (lastAt?_eq_requests (by rw [onePath])))
  obtain rfl := Except.ok.inj rendered
  exact ⟨report, reported, noFailures, read⟩

/-- A text is replaced by that of a later artifact with the same file, and counts as written. -/
theorem earlier_text_is_replaced :
    ¬ ∀ (files : FileSystem) (context : Context) (report : Report),
      ((run FileSystem.access context).run files).1.result = .ok report ->
        report.failed = [] ->
        ∃ cleaned, IsCleanedModel files context cleaned ∧
          report.checksum = Sha256.hexDigest cleaned.write ∧
          ∀ artifact : Artifact, ∃ text,
            artifact.render (optionsFor context report.checksum) cleaned = .ok text ∧
              ((run FileSystem.access context).run files).2.read (context.pathOf artifact) =
                .ok text := by
  intro holdOwnTexts
  obtain ⟨report, reported, noFailures⟩ := exists_report_messagingFiles
  obtain ⟨cleaned, isCleaned, -, holds⟩ :=
    holdOwnTexts messagingFiles sharingContext report reported noFailures
  obtain ⟨notifications, notificationsRendered, notificationsRead⟩ := holds .notifications
  obtain ⟨requests, requestsRendered, requestsRead⟩ := holds .requests
  have onePath : sharingContext.pathOf .notifications = sharingContext.pathOf .requests := rfl
  rw [onePath] at notificationsRead
  obtain rfl := Except.ok.inj (notificationsRead.symm.trans requestsRead)
  have oneText := Except.ok.inj (notificationsRendered.trans requestsRendered.symm)
  exact renderNotifications_ne_renderRequests _ _ _ oneText

end ProtocolHeaders.Generation
