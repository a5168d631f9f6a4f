import ProtocolHeaders.Generation.Basic
import ProtocolHeaders.Proofs.Phase.Sequence

/-!
# Strict and lenient analyses

A lenient analysis lets every model pass and keeps its findings as warnings. A strict one
keeps them as errors, and rejects the model if there are any. Both look at what the same
cleanup leaves of the model, so they differ in nothing but whether the model is rejected.
-/

namespace ProtocolHeaders.Generation

open Cleanup (clean)
open Validation (findings)

variable (context : Context) (model : Model)

/-- A lenient analysis passes. Its warnings are the findings in the cleaned model. -/
theorem result_analyze_lenient :
    ∃ statistics, (analyze { context with strict := false } model).result =
      .ok { model := (clean context.rules model).model
            warnings := findings (clean context.rules model).model
            statistics } :=
  ⟨_, rfl⟩

/-- A strict analysis passes without any diagnostics if the cleaned model has no findings. -/
theorem result_analyze_strict {context : Context} {model : Model}
    (noFindings : findings (clean context.rules model).model = []) :
    ∃ statistics, (analyze { context with strict := true } model).result =
      .ok { model := (clean context.rules model).model, statistics } := by
  simp [analyze, Phase.standard, Phase.runAll, Phase.run, noFindings]

/-- A strict analysis fails with the number of the findings if there are any. -/
theorem result_analyze_strict_of_findings {context : Context} {model : Model}
    (found : findings (clean context.rules model).model ≠ []) :
    (analyze { context with strict := true } model).result =
      .error (.phase (.invalid (findings (clean context.rules model).model).length)) := by
  simp [analyze, Phase.standard, Phase.runAll, Phase.run, found]

/-- What an analysis leaves is the cleaned model, whether it is strict or not. -/
theorem model_of_result_analyze {context : Context} {model : Model} {analysis : Analysis}
    (passed : (analyze context model).result = .ok analysis) :
    analysis.model = (clean context.rules model).model := by
  have sameModel : (Phase.runAll (Phase.standard context.rules context.strict)
      { model }).analysis.model = (clean context.rules model).model := by
    cases context.strict with
    | false => rfl
    | true => exact (Phase.runAll_standard_strict context.rules model).1
  rw [← sameModel]
  simp only [analyze] at passed
  split at passed
  · cases passed
  · rw [← Except.ok.inj passed]

/-- What a strict analysis makes of a model that passes a lenient one: it lets it pass exactly
if there are no warnings, and then leaves the same model; else it fails with their number. -/
structure DiffersInRejecting (lenient : Analysis) (strict : Except RunError Analysis) : Prop where
  passes_iff : (∃ passed, strict = .ok passed) ↔ lenient.warnings = []
  same_model : ∀ passed, strict = .ok passed -> passed.model = lenient.model
  no_diagnostics : ∀ passed, strict = .ok passed -> passed.warnings = [] ∧ passed.errors = []
  rejects : lenient.warnings ≠ [] ->
    strict = .error (.phase (.invalid lenient.warnings.length))

/-- For every model and all rules, a lenient analysis passes without errors, and a strict one
differs from it only in rejecting the model if it has warnings. -/
theorem strict_analysis_differs_in_rejecting :
    ∃ lenient, (analyze { context with strict := false } model).result = .ok lenient ∧
      lenient.errors = [] ∧
      DiffersInRejecting lenient (analyze { context with strict := true } model).result := by
  obtain ⟨statistics, lenientPasses⟩ := result_analyze_lenient context model
  refine ⟨_, lenientPasses, rfl, ?_⟩
  by_cases noFindings : findings (clean context.rules model).model = []
  · obtain ⟨strictStatistics, strictPasses⟩ := result_analyze_strict noFindings
    rw [strictPasses]
    constructor
    case passes_iff => exact iff_of_true ⟨_, rfl⟩ noFindings
    case same_model =>
      rintro passed ⟨⟩
      rfl
    case no_diagnostics =>
      rintro passed ⟨⟩
      exact ⟨rfl, rfl⟩
    case rejects => exact fun warned => absurd noFindings warned
  · rw [result_analyze_strict_of_findings noFindings]
    constructor
    case passes_iff => exact iff_of_false (fun ⟨passed, passes⟩ => nomatch passes) noFindings
    case same_model => exact nofun
    case no_diagnostics => exact nofun
    case rejects => exact fun _ => rfl

end ProtocolHeaders.Generation
