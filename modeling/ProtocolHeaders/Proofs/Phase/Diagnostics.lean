import Mathlib.Algebra.Ring.Nat
import ProtocolHeaders.Proofs.Phase.Sequence

/-!
# Diagnostics of phases

Phases share one analysis, and each adds to what the ones before it left there. Whatever phases
run, and also behind a strict validation that failed, the statistics tell how many warnings and
errors are recorded and how much all cleanups so far changed together. What is recorded once is
never lost.
-/

namespace ProtocolHeaders

/-! ## Statistics by name -/

/-- The counters of a report, each with the name of its statistic. -/
def Cleanup.Report.counters : List (String × (Report -> Nat)) :=
  [("deduplicated_enums", deduplicatedEnumerations), ("renamed_enums", renamedEnumerations),
    ("removed_interfaces", removedInterfaces), ("removed_type_aliases", removedAliases),
    ("dropped_bases", droppedBases), ("pruned_dependencies", prunedDependencies)]

/-- An empty report counts nothing. -/
theorem Cleanup.Report.counter_empty : ∀ counter ∈ counters, counter.2 {} = 0 := by
  simp [counters]

/-- Reports add up counter by counter. -/
theorem Cleanup.Report.counter_add (left right : Report) :
    ∀ counter ∈ counters, counter.2 (left.add right) = counter.2 left + counter.2 right := by
  simp [counters, add]

namespace Statistics

/-- The statistic with a name. An absent one is zero. -/
def count (statistics : Statistics) (name : String) : Nat :=
  (statistics.entries.lookup name).getD 0

variable (statistics : Statistics)

/-- The warnings are counted under their name. -/
theorem count_warnings :
    statistics.count "model_validation_warnings" = statistics.warnings?.getD 0 := by
  rcases statistics with ⟨_ | report, _ | warnings, _ | errors⟩ <;> rfl

/-- The errors are counted under their name. -/
theorem count_errors :
    statistics.count "model_validation_errors" = statistics.errors?.getD 0 := by
  rcases statistics with ⟨_ | report, _ | warnings, _ | errors⟩ <;> rfl

/-- What a cleanup counts is found under the names of its counters. -/
theorem count_counter :
    ∀ counter ∈ Cleanup.Report.counters,
      statistics.count counter.1 = counter.2 (statistics.cleanup?.getD {}) := by
  simp only [Cleanup.Report.counters, List.forall_mem_cons, List.not_mem_nil, false_implies,
    implies_true, and_true]
  rcases statistics with ⟨_ | report, _ | warnings, _ | errors⟩
  all_goals exact ⟨rfl, rfl, rfl, rfl, rfl, rfl⟩

end Statistics

namespace Phase

/-! ## What phases add -/

/-- What a phase changes in the model, if it is a cleanup. -/
def report? (phase : Phase) (analysis : Analysis) : Option Cleanup.Report :=
  match phase with
  | cleanup rules => some (Cleanup.clean rules analysis.model).report
  | validation _ => none

/-- The reports of the cleanups among phases, each on what the phases before it left. -/
def reports : List Phase -> Analysis -> List Cleanup.Report
  | [], _ => []
  | phase :: others, analysis =>
      (phase.report? analysis).toList ++ reports others (phase.run analysis).analysis

/-- The statistics of an analysis agree with what is recorded in it and with the reports of all
cleanups so far. -/
structure IsAccounted (reports : List Cleanup.Report) (analysis : Analysis) : Prop where
  warnings : analysis.statistics.count "model_validation_warnings" = analysis.warnings.length
  errors : analysis.statistics.count "model_validation_errors" = analysis.errors.length
  cleanups : ∀ counter ∈ Cleanup.Report.counters,
    analysis.statistics.count counter.1 = (reports.map counter.2).sum

/-- All that is recorded in an analysis is recorded in a later one, in front of what is new. -/
structure IsExtended (earlier later : Analysis) : Prop where
  warnings : earlier.warnings <+: later.warnings
  errors : earlier.errors <+: later.errors

/-- An analysis that stays as it is appends nothing. -/
theorem IsExtended.refl (analysis : Analysis) : IsExtended analysis analysis :=
  ⟨List.prefix_rfl, List.prefix_rfl⟩

/-- What is appended step by step is appended. -/
theorem IsExtended.trans {first second third : Analysis} (extended : IsExtended first second)
    (further : IsExtended second third) : IsExtended first third :=
  ⟨extended.warnings.trans further.warnings, extended.errors.trans further.errors⟩

/-- A fresh analysis has nothing recorded and nothing counted. -/
theorem isAccounted_fresh (model : Model) : IsAccounted [] { model } where
  warnings := rfl
  errors := rfl
  cleanups counter listed := by
    rw [Statistics.count_counter _ counter listed]
    exact Cleanup.Report.counter_empty counter listed

/-- One more phase is accounted for. -/
theorem isAccounted_run {reports : List Cleanup.Report} {analysis : Analysis}
    (accounted : IsAccounted reports analysis) (phase : Phase) :
    IsAccounted (reports ++ (phase.report? analysis).toList) (phase.run analysis).analysis := by
  obtain ⟨warnings, errors, cleanups⟩ := accounted
  rw [Statistics.count_warnings] at warnings
  rw [Statistics.count_errors] at errors
  have cleaned : ∀ counter ∈ Cleanup.Report.counters,
      counter.2 (analysis.statistics.cleanup?.getD {}) = (reports.map counter.2).sum :=
    fun counter listed =>
      (analysis.statistics.count_counter counter listed).symm.trans (cleanups counter listed)
  match phase with
  | cleanup rules =>
      refine ⟨?_, ?_, fun counter listed => ?_⟩
      · rwa [Statistics.count_warnings]
      · rwa [Statistics.count_errors]
      · rw [Statistics.count_counter _ counter listed, List.map_append, List.sum_append,
          ← cleaned counter listed]
        simp [report?, run, Statistics.addCleanup, Cleanup.Report.counter_add _ _ counter listed]
  | validation false =>
      refine ⟨?_, ?_, fun counter listed => ?_⟩
      · simp [Statistics.count_warnings, run, Statistics.addWarnings, warnings]
      · rwa [Statistics.count_errors]
      · simpa [Statistics.count_counter _ counter listed, report?, run, Statistics.addWarnings]
          using cleaned counter listed
  | validation true =>
      refine ⟨?_, ?_, fun counter listed => ?_⟩
      · rwa [Statistics.count_warnings]
      · simp [Statistics.count_errors, run, Statistics.addErrors, errors]
      · simpa [Statistics.count_counter _ counter listed, report?, run, Statistics.addErrors]
          using cleaned counter listed

/-- One more phase loses nothing. -/
theorem isExtended_run (phase : Phase) (analysis : Analysis) :
    IsExtended analysis (phase.run analysis).analysis := by
  match phase with
  | cleanup rules => exact ⟨List.prefix_rfl, List.prefix_rfl⟩
  | validation false => exact ⟨List.prefix_append _ _, List.prefix_rfl⟩
  | validation true => exact ⟨List.prefix_rfl, List.prefix_append _ _⟩

/-- Any phases are accounted for. -/
theorem isAccounted_runThrough {earlier : List Cleanup.Report} {analysis : Analysis}
    (accounted : IsAccounted earlier analysis) (phases : List Phase) :
    IsAccounted (earlier ++ reports phases analysis) (runThrough phases analysis) := by
  induction phases generalizing earlier analysis with
  | nil => simpa [reports, runThrough] using accounted
  | cons phase others inductionHypothesis =>
      have further := inductionHypothesis (isAccounted_run accounted phase)
      rw [List.append_assoc] at further
      exact further

/-- No phases lose anything. -/
theorem isExtended_runThrough (phases : List Phase) (analysis : Analysis) :
    IsExtended analysis (runThrough phases analysis) := by
  induction phases generalizing analysis with
  | nil => exact .refl analysis
  | cons phase others inductionHypothesis =>
      exact (isExtended_run phase analysis).trans (inductionHypothesis _)

/-- Phases that go on behind others go on from what these left. -/
theorem runThrough_take_add (phases : List Phase) (analysis : Analysis) (count more : Nat) :
    runThrough (phases.take (count + more)) analysis =
      runThrough ((phases.drop count).take more) (runThrough (phases.take count) analysis) := by
  simp only [runThrough, List.take_add, List.foldl_append]

/-- A strict validation records its findings as errors, and fails if there are any, with their
number. -/
theorem failure?_run_strict_eq_some_iff (analysis : Analysis) :
    ∃ found, ((validation true).run analysis).analysis.errors = analysis.errors ++ found ∧
      ∀ failure, ((validation true).run analysis).failure? = some failure ↔
        found ≠ [] ∧ failure = .invalid found.length := by
  refine ⟨Validation.findings analysis.model, rfl, fun failure => ?_⟩
  cases found : Validation.findings analysis.model with
  | nil => simp [run, found]
  | cons finding others => simp [run, found, eq_comm]

/-- Whatever phases run on a fresh analysis, each going on from what the one before it left even
if that one failed: in each state that is reached, the statistics count the recorded warnings and
errors and add up each counter of all cleanups so far, and every later state still has these
warnings and errors in front. A strict validation fails exactly if it adds errors, with
their number. -/
theorem diagnostics_are_accounted (phases : List Phase) (model : Model) :
    (∀ count,
      IsAccounted (reports (phases.take count) { model })
          (runThrough (phases.take count) { model }) ∧
        ∀ more, IsExtended (runThrough (phases.take count) { model })
          (runThrough (phases.take (count + more)) { model })) ∧
      ∀ reached : Analysis,
        ∃ found, ((validation true).run reached).analysis.errors = reached.errors ++ found ∧
          ∀ failure, ((validation true).run reached).failure? = some failure ↔
            found ≠ [] ∧ failure = .invalid found.length := by
  refine ⟨fun count => ⟨?_, fun more => ?_⟩, failure?_run_strict_eq_some_iff⟩
  · exact isAccounted_runThrough (isAccounted_fresh model) (phases.take count)
  · rw [runThrough_take_add]
    exact isExtended_runThrough _ _

end Phase

end ProtocolHeaders
