import ProtocolHeaders.Cleanup.Basic
import ProtocolHeaders.Validation.Basic

/-!
# Phases

A phase works on a model and on the diagnostics that the phases before it left.
A cleanup changes the model; a validation only adds diagnostics, and fails if it is
strict and has findings. Diagnostics of all phases add up.
-/

namespace ProtocolHeaders

open Log (Event)

/-- What the phases so far have counted. A count is absent until a phase counts. -/
structure Statistics where
  cleanup? : Option Cleanup.Report := none
  warnings? : Option Nat := none
  errors? : Option Nat := none
deriving Repr, DecidableEq, Inhabited

namespace Statistics

/-- The statistics with the counts of one more cleanup. -/
def addCleanup (statistics : Statistics) (report : Cleanup.Report) : Statistics :=
  { statistics with cleanup? := some ((statistics.cleanup?.getD {}).add report) }

/-- The statistics with the findings of one more validation. -/
def addWarnings (statistics : Statistics) (count : Nat) : Statistics :=
  { statistics with warnings? := some (statistics.warnings?.getD 0 + count) }

/-- The statistics with the findings of one more strict validation. -/
def addErrors (statistics : Statistics) (count : Nat) : Statistics :=
  { statistics with errors? := some (statistics.errors?.getD 0 + count) }

/-- The counts with the names under which they are shown. -/
def entries (statistics : Statistics) : List (String × Nat) :=
  (statistics.cleanup?.map Cleanup.Report.entries).getD [] ++
    (statistics.warnings?.map fun count => ("model_validation_warnings", count)).toList ++
    (statistics.errors?.map fun count => ("model_validation_errors", count)).toList

end Statistics

/-- A model with what the phases so far have found in it. -/
structure Analysis where
  model : Model
  warnings : List Finding := []
  errors : List Finding := []
  statistics : Statistics := {}
deriving Repr, DecidableEq, Inhabited

/-- Why a phase fails. -/
inductive PhaseError where
  /-- A strict validation has findings. -/
  | invalid (count : Nat)
deriving Repr, DecidableEq

/-- The text shown for a failure. -/
def PhaseError.message : PhaseError -> String
  | invalid count => "model validation failed with " ++ toString count ++ " error(s)"

/-- A step between loading a model and generating from it. -/
inductive Phase where
  | cleanup (rules : Cleanup.Rules)
  | validation (strict : Bool)
deriving Repr, DecidableEq

namespace Phase

/-- The name of a phase. -/
def name : Phase -> String
  | cleanup _ => "cleanup"
  | validation _ => "validation"

/-- What a phase does, in a few words. -/
def description : Phase -> String
  | cleanup _ => "Deduplicate, rename and prune the loaded model"
  | validation _ => "Report model anomalies"

/-- What a phase leaves behind, whether it fails, and what it reports. -/
structure Outcome where
  analysis : Analysis
  failure? : Option PhaseError := none
  events : List Event
deriving Repr

/-- Run a phase. -/
def run (phase : Phase) (analysis : Analysis) : Outcome :=
  match phase with
  | cleanup rules =>
      let outcome := Cleanup.clean rules analysis.model
      { analysis :=
          { analysis with
            model := outcome.model
            statistics := analysis.statistics.addCleanup outcome.report }
        events := outcome.events }
  | validation strict =>
      let findings := Validation.findings analysis.model
      let events :=
        Validation.events analysis.model ++ findings.map fun finding => .found finding strict
      if strict then
        { analysis :=
            { analysis with
              errors := analysis.errors ++ findings
              statistics := analysis.statistics.addErrors findings.length }
          failure? := if findings.isEmpty then none else some (.invalid findings.length)
          events }
      else
        { analysis :=
            { analysis with
              warnings := analysis.warnings ++ findings
              statistics := analysis.statistics.addWarnings findings.length }
          events }

/-- Phases run one after the other, up to the first that fails. -/
structure Run where
  analysis : Analysis
  failure? : Option PhaseError
  events : List Event
deriving Repr

/-- Run phases in order; the first that fails is the last to run. -/
def runAll : List Phase -> Analysis -> Run
  | [], analysis => ⟨analysis, none, []⟩
  | phase :: others, analysis =>
      let outcome := phase.run analysis
      let events := .phaseStarted phase.name phase.description :: outcome.events
      match outcome.failure? with
      | some failure => ⟨outcome.analysis, some failure, events⟩
      | none =>
          let rest := runAll others outcome.analysis
          { rest with events := events ++ rest.events }

/-- The phases of every run: a cleanup, then a validation. -/
def standard (rules : Cleanup.Rules) (strict : Bool) : List Phase :=
  [cleanup rules, validation strict]

end Phase

end ProtocolHeaders
