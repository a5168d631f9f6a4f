import Mathlib.Data.List.Induction
import ProtocolHeaders.Phase
import ProtocolHeaders.Proofs.Cleanup.Clean

/-!
# Sequences of phases

A run stops at the first phase that fails, but the phases themselves can go on: each works on
whatever analysis the one before it left. However they are put together, the model is clean
from the first cleanup on. A later cleanup may rename an enumeration once more and so bring it
into collision with an alias; it then cleans up after itself.
-/

namespace ProtocolHeaders.Phase

open Cleanup (Rules IsClean)

/-- What phases make of an analysis when each runs on what the one before it left, also if
that one failed. -/
def runThrough (phases : List Phase) (analysis : Analysis) : Analysis :=
  phases.foldl (fun reached phase => (phase.run reached).analysis) analysis

/-- Whether a phase cleans up by some rules, if it is a cleanup. -/
def Uses (rules : Rules) : Phase -> Prop
  | cleanup others => others = rules
  | validation _ => True

theorem runThrough_concat (phases : List Phase) (phase : Phase) (analysis : Analysis) :
    runThrough (phases ++ [phase]) analysis =
      (phase.run (runThrough phases analysis)).analysis := by
  rw [runThrough, List.foldl_append]
  rfl

/-- A cleanup leaves a cleaned model. -/
theorem model_run_cleanup (rules : Rules) (analysis : Analysis) :
    ((cleanup rules).run analysis).analysis.model = (Cleanup.clean rules analysis.model).model :=
  rfl

/-- A validation leaves the model as it is, whether it is strict and whatever it finds. -/
theorem model_run_validation (strict : Bool) (analysis : Analysis) :
    ((validation strict).run analysis).analysis.model = analysis.model := by
  cases strict <;> rfl

/-- A cleanup followed by a strict validation leaves the cleaned model, and it passes exactly if
there are no findings in that. -/
theorem runAll_standard_strict (rules : Rules) (model : Model) :
    let run := runAll (standard rules true) { model }
    run.analysis.model = (Cleanup.clean rules model).model ∧
      (run.failure? = none ↔ Validation.findings (Cleanup.clean rules model).model = []) := by
  cases found : Validation.findings (Cleanup.clean rules model).model with
  | nil => simp [standard, runAll, run, found]
  | cons finding others => simp [standard, runAll, run, found]

/-- After a phase the model is clean if it was clean before or the phase is a cleanup. -/
theorem isClean_run {rules : Rules} {phase : Phase} {analysis : Analysis}
    (uses : phase.Uses rules)
    (clean : phase = cleanup rules ∨ IsClean rules analysis.model) :
    IsClean rules (phase.run analysis).analysis.model := by
  cases phase with
  | cleanup others =>
      obtain rfl : others = rules := uses
      rw [model_run_cleanup]
      exact Cleanup.isClean_clean others analysis.model
  | validation strict =>
      rw [model_run_validation]
      rcases clean with isCleanup | clean
      · cases isCleanup
      · exact clean

/-- The model is clean at the end of phases among which there is a cleanup. -/
theorem isClean_runThrough {rules : Rules} {phases : List Phase}
    (uses : ∀ phase ∈ phases, phase.Uses rules) (cleaned : cleanup rules ∈ phases)
    (analysis : Analysis) : IsClean rules (runThrough phases analysis).model := by
  induction phases using List.reverseRecOn with
  | nil => cases cleaned
  | append_singleton earlier last inductionHypothesis =>
      obtain ⟨earlierUse, lastUses⟩ := List.forall_mem_append.mp uses
      rw [runThrough_concat]
      apply isClean_run (lastUses last List.mem_cons_self)
      rcases List.mem_append.mp cleaned with cleanedBefore | isLast
      · exact .inr (inductionHypothesis earlierUse cleanedBefore)
      · exact .inl (List.mem_singleton.mp isLast).symm

/-- Whatever phases run on an analysis, cleanups by the same rules and validations of either
kind, each state behind the first cleanup holds a clean model, and no validation changes the
model. -/
theorem states_after_cleanup_are_clean (rules : Rules) (phases : List Phase)
    (uses : ∀ phase ∈ phases, phase.Uses rules) (analysis : Analysis) :
    (∀ count, cleanup rules ∈ phases.take count ->
        IsClean rules (runThrough (phases.take count) analysis).model) ∧
      ∀ strict reached, ((validation strict).run reached).analysis.model = reached.model := by
  refine ⟨?_, model_run_validation⟩
  intro count cleaned
  have usesSoFar : ∀ phase ∈ phases.take count, phase.Uses rules :=
    fun phase member => uses phase (List.mem_of_mem_take member)
  exact isClean_runThrough usesSoFar cleaned analysis

/-- Rules by which an enumeration gets a new name twice. -/
def chainedRules : Rules :=
  { enumRenames := .ofList [("First", "Second"), ("Second", "Third")]
    removedInterfaces := .ofList ["Gone"]
    removedAliases := .empty }

/-- A model in which an alias has the name that an enumeration gets by the second cleanup, and
in which a structure inside another extends a removed one. -/
def chainedModel : Model :=
  { enumerations := [{ name := "First", kind := .string }]
    aliases := [{ name := "Third", type := .base "int" }]
    interfaces :=
      [{ name := "Gone", bases := ["Missing"] },
        { name := "Point", dependencies := .ofList ["First", "Gone", "Third"]
          children := [{ name := "inner", bases := ["Gone", "Point"] }] }] }

/-- Two cleanups between validations, the first of which fails. -/
def chainedPhases : List Phase :=
  [validation true, cleanup chainedRules, validation false, cleanup chainedRules]

/-- The alias that survives the first cleanup falls to the second one, and the model is clean
after each of them. -/
theorem chained_model_stays_clean :
    (∀ phase ∈ chainedPhases, phase.Uses chainedRules) ∧
      ((validation true).run { model := chainedModel }).failure?.isSome = true ∧
      (runThrough (chainedPhases.take 2) { model := chainedModel }).model.aliasNames =
        ["Third"] ∧
      IsClean chainedRules
        (runThrough (chainedPhases.take 2) { model := chainedModel }).model ∧
      (runThrough (chainedPhases.take 4) { model := chainedModel }).model.aliasNames = [] ∧
      IsClean chainedRules
        (runThrough (chainedPhases.take 4) { model := chainedModel }).model := by
  have uses : ∀ phase ∈ chainedPhases, phase.Uses chainedRules := by
    simp [chainedPhases, Uses]
  obtain ⟨clean, -⟩ :=
    states_after_cleanup_are_clean chainedRules chainedPhases uses { model := chainedModel }
  have cleanedOnce : cleanup chainedRules ∈ chainedPhases.take 2 :=
    List.mem_cons_of_mem _ List.mem_cons_self
  have cleanedAgain : cleanup chainedRules ∈ chainedPhases.take 4 :=
    List.mem_cons_of_mem _ List.mem_cons_self
  exact ⟨uses, by decide +kernel, by decide +kernel, clean 2 cleanedOnce, by decide +kernel,
    clean 4 cleanedAgain⟩

end ProtocolHeaders.Phase
