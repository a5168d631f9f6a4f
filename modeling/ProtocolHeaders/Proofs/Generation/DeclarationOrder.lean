import Mathlib.Data.List.Permutation
import ProtocolHeaders.Proofs.Generation.Run
import ProtocolHeaders.Proofs.Header.Emission
import ProtocolHeaders.Proofs.Model.File

/-!
# The listed order and the declared one

The names of a model's nodes can be listed in the order in which a run declares them. The
listing puts all batches together before it looks at them, a run writes one batch after the
other, and each takes a model file through the phases by itself. They agree on every file
system: one fails where the other does, for the same cycle, and the run declares what is
listed, the aliases aside that the target provides.
-/

namespace ProtocolHeaders.Generation

open Header (Artifact)
open Header.Declarations (ShowsInOrder exists_showsInOrder writeBatches)

variable {files : FileSystem} {context : Context} {analysis : Analysis}

/-! ## Agreement -/

/-- Listing the nodes of a model agrees with declaring them in its header. -/
structure Agrees (options : Header.Options) (model : Model)
    (listed : Except RunError (List String)) (header : Except Order.Cycle String) : Prop where
  fails : ∀ error, listed = .error error ↔ ∃ cycle, error = .cycle cycle ∧ header = .error cycle
  declares : ∀ names, listed = .ok names -> ∃ ordering text,
    header = .ok text ∧ ShowsInOrder options model ordering text ∧
      names = ordering.map Node.name

/-- The listing of a prepared model agrees with its header. -/
theorem agrees_of_prepared (options : Header.Options)
    (prepared : ((prepare FileSystem.access context).run files).1.result = .ok analysis) :
    Agrees options analysis.model
      ((emissionOrder FileSystem.access context).run files).1.result
      (Header.Declarations.render options analysis.model) := by
  rw [result_emissionOrder prepared]
  cases found : Order.order analysis.model.nodes with
  | error cycle =>
      have noHeader : Header.Declarations.render options analysis.model = .error cycle := by
        rw [Header.Declarations.render_eq_map_body, Header.Declarations.body_eq_map_order, found]
        rfl
      rw [noHeader]
      refine ⟨fun error => ?_, nofun⟩
      constructor
      · rintro ⟨⟩
        exact ⟨cycle, rfl, rfl⟩
      · rintro ⟨_, rfl, ⟨⟩⟩
        rfl
  | ok nodes =>
      obtain ⟨ordering, text, shows, sameNames, rendered⟩ := exists_showsInOrder options found
      rw [rendered]
      refine ⟨fun error => ⟨nofun, ?_⟩, fun names listed => ?_⟩
      · rintro ⟨_, -, ⟨⟩⟩
      · obtain rfl := Except.ok.inj listed
        exact ⟨ordering, text, rfl, shows, sameNames⟩

/-- For every context whose model is prepared, listing agrees with the header: both fail for the
same cycle, or the text of the header lays down what is listed, in this order, without the aliases
that the target provides. A run writes this header batch by batch as its first artifact; and if
there is a cycle, the run tells of the one that the listing finds. -/
theorem listed_order_is_declared_order (files : FileSystem) (context : Context)
    (analysis : Analysis)
    (prepared : ((prepare FileSystem.access context).run files).1.result = .ok analysis) :
    let model := analysis.model
    let options := optionsOf context model
    let listed := ((emissionOrder FileSystem.access context).run files).1.result
    let header := Header.Declarations.render options model
    Agrees options model listed header ∧
      header = (writeBatches options (.ofModel model)
        (String.join (model.enumerations.map Header.Declarations.enumerationBlock))
        (.ofNodes model.nodes)).map (Header.source options Header.Declarations.includes) ∧
      (∀ report, ((run FileSystem.access context).run files).1.result = .ok report ->
        ∃ others, report.attempts = firstAttempt files context model :: others) ∧
      ∀ cycle, listed = .error (.cycle cycle) ->
        (firstAttempt files context model).failure? = some cycle.message := by
  intro model options listed header
  have agrees : Agrees options model listed header := agrees_of_prepared options prepared
  refine ⟨agrees, Header.Declarations.render_eq_map_writeBatches options model, ?_, ?_⟩
  · intro report reported
    rw [result_run prepared] at reported
    exact attempts_generate reported
  · intro cycle found
    obtain ⟨_, same, noHeader⟩ : ∃ other, RunError.cycle cycle = .cycle other ∧
        Header.Declarations.render options model = .error other := (agrees.fails _).mp found
    cases same
    rw [firstAttempt, failure?_attempt, Artifact.render, noHeader]

/-- An alias for one that the target provides. -/
def identifierAlias : Alias :=
  { name := "Id", type := .reference "integer"
    dependencies := .ofList ["integer", "uinteger"] }

/-- An interface with the name of an alias that the target provides. -/
def providedInterface : Interface :=
  { name := "uinteger", dependencies := .ofList ["uinteger"] }

/-- A model with both, and with the alias that the target provides. -/
def providedModel : Model :=
  { aliases := [identifierAlias, { name := "integer", type := .base "int" }]
    interfaces := [providedInterface] }

/-- A file system that holds the text of the model as a model file. -/
def providedFiles : FileSystem :=
  { entries := [(["model.json"], .file (.text providedModel.write))] }

/-- What the phases make of the model, with the built-in rules. -/
def providedAnalysis : Analysis :=
  (Phase.runAll (Phase.standard Context.standard.rules false) { model := providedModel }).analysis

theorem read_providedFiles :
    providedFiles.read Context.standard.modelPath = .ok providedModel.write := by
  have path : Context.standard.modelPath = "model.json" := rfl
  have isPath : FileSystem.checkPath "model.json" = .ok () := by decide +kernel
  have segments : Path.segments "model.json" = ["model.json"] := by decide +kernel
  have resolved : providedFiles.resolve "model.json" = .ok ["model.json"] := by
    have isRelative : providedFiles.origin "model.json" = [] := rfl
    rw [FileSystem.resolve, isPath, segments, isRelative]
    rfl
  rw [path, FileSystem.read, resolved]
  rfl

theorem read_write_providedModel : Model.read providedModel.write = .ok providedModel :=
  Model.read_write (by decide +kernel)

/-- Both names that the target provides are listed, but only the interface is declared. -/
theorem provided_alias_is_listed_only :
    let model := providedAnalysis.model
    let options := optionsOf .standard model
    ((prepare FileSystem.access .standard).run providedFiles).1.result = .ok providedAnalysis ∧
      ((emissionOrder FileSystem.access .standard).run providedFiles).1.result =
        .ok ["integer", "uinteger", "Id"] ∧
      ∃ header, Header.Declarations.render options model = .ok header ∧
        Header.LaysOut options model
          [.interface providedInterface, .typeAlias identifierAlias] header := by
  intro model options
  have prepared : ((prepare FileSystem.access .standard).run providedFiles).1.result =
      .ok providedAnalysis := by
    rw [result_prepare read_providedFiles read_write_providedModel]
    exact result_analyze rfl providedModel
  have listed : ((emissionOrder FileSystem.access .standard).run providedFiles).1.result =
      .ok ["integer", "uinteger", "Id"] := by
    have names : (Order.order providedAnalysis.model.nodes).map (·.map Node.name) =
        .ok ["integer", "uinteger", "Id"] := by decide +kernel
    rw [result_emissionOrder prepared]
    cases found : Order.order providedAnalysis.model.nodes with
    | error cycle =>
        rw [found] at names
        cases names
    | ok nodes =>
        rw [found] at names
        exact congrArg Except.ok (Except.ok.inj names)
  obtain ⟨agrees, -⟩ :=
    listed_order_is_declared_order providedFiles .standard providedAnalysis prepared
  obtain ⟨ordering, header, rendered, shows, sameNames⟩ := agrees.declares _ listed
  -- Only one rearrangement of the nodes has the names that are listed.
  have onlyOrdering : ∀ ordering ∈ model.nodes.permutations',
      ["integer", "uinteger", "Id"] = ordering.map Node.name ->
        ordering.filter (Header.Declarations.IsDeclared options ·) =
          [.interface providedInterface, .typeAlias identifierAlias] := by
    decide +kernel
  have shown := shows.shown
  rw [onlyOrdering ordering (List.mem_permutations'.mpr shows.rearranged) sameNames] at shown
  exact ⟨prepared, listed, header, rendered, shown⟩

end ProtocolHeaders.Generation
