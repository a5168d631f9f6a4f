import Mathlib.Data.List.Nodup
import ProtocolHeaders.Proofs.Header.Emission
import ProtocolHeaders.Proofs.Phase.Sequence
import ProtocolHeaders.Proofs.Validation.Soundness

/-!
# Names that a header declares

A header declares the enumerations of its model, the aliases that the target does not provide,
and the top-level interfaces, each as often as the model has it. After a cleanup no alias has
the name of an enumeration or an interface, and after a strict validation no two interfaces
have one name. Nothing compares two aliases, or an enumeration with an interface, so whether
all names are distinct depends on these and on the enumerations.
-/

namespace ProtocolHeaders.Header.Declarations

open Cleanup (Rules clean)
open Phase (runAll standard)

/-- The names of the aliases that a header declares. -/
def declaredAliasNames (options : Options) (model : Model) : List String :=
  (model.aliases.filter (!isBuiltin options ·)).map Alias.name

/-- The names of all top-level types that a header declares, kind by kind. -/
def declaredNames (options : Options) (model : Model) : List String :=
  model.enumerationNames ++ (declaredAliasNames options model ++ model.interfaceNames)

/-- A node is declared under its name, if it is declared. -/
theorem map_name_declareNode? (options : Options) (index : UnionIndex) (node : Node) :
    (declareNode? options index node).map Declaration.name =
      if IsDeclared options node then some node.name else none := by
  cases node with
  | typeAlias entity =>
      by_cases provided : entity.name ∈ options.builtinAliases
      · simp [declareNode?, isBuiltin, IsDeclared, Node.name, Node.isInterface, provided]
      · simp [declareNode?, isBuiltin, IsDeclared, Node.name, Node.isInterface, provided,
          declareAlias, Declaration.name]
  | interface entity =>
      simp [declareNode?, IsDeclared, Node.name, Node.isInterface, structOf, Declaration.name]

/-- The declared nodes of a model are the aliases that the target does not provide, and the
interfaces. -/
theorem map_name_filter_isDeclared (options : Options) (model : Model) :
    (model.nodes.filter (IsDeclared options ·)).map Node.name =
      declaredAliasNames options model ++ model.interfaceNames := by
  have ofAliases : (model.aliases.map Node.typeAlias).filter (IsDeclared options ·) =
      (model.aliases.filter (!isBuiltin options ·)).map Node.typeAlias := by
    rw [List.filter_map]
    congr 1
    refine List.filter_congr fun entity _ => ?_
    by_cases provided : entity.name ∈ options.builtinAliases <;>
      simp [IsDeclared, isBuiltin, Node.name, Node.isInterface, provided]
  have ofInterfaces : (model.interfaces.map Node.interface).filter (IsDeclared options ·) =
      model.interfaces.map Node.interface := by
    refine List.filter_eq_self.mpr fun node member => ?_
    obtain ⟨entity, -, rfl⟩ := List.mem_map.mp member
    exact decide_eq_true (.inl rfl)
  rw [Model.nodes, List.filter_append, ofAliases, ofInterfaces, List.map_append, List.map_map,
    List.map_map]
  rfl

/-- A header declares each name as often as the entities of its model have it. -/
theorem map_name_declarations_perm {options : Options} {model : Model}
    {declared : List Declaration} (succeeded : declarations options model = .ok declared) :
    (declared.map Declaration.name).Perm (declaredNames options model) := by
  cases found : Order.order model.nodes with
  | error cycle =>
      rw [declarations, found] at succeeded
      cases succeeded
  | ok nodes =>
      rw [declarations, found] at succeeded
      cases succeeded
      obtain ⟨ordering, permuted, -, rfl⟩ := Order.exists_ordering_of_order_eq_ok found
      have names : ((ordering.map Order.settled).filterMap
          (declareNode? options (.ofModel model))).map Declaration.name =
            (ordering.filter (IsDeclared options ·)).map Node.name := by
        rw [List.map_filterMap, List.filterMap_map, ← List.filterMap_eq_map, List.filterMap_filter]
        refine List.filterMap_congr fun node _ => ?_
        simp [map_name_declareNode?]
      rw [List.map_append, List.map_map, names, declaredNames, ← map_name_filter_isDeclared]
      exact .append_left _ ((permuted.filter _).map _)

/-- If interfaces have distinct names and aliases have none of the others', the names of all
top-level types are distinct exactly if those of the enumerations are and those of the declared
aliases, and no enumeration has the name of an interface. -/
theorem nodup_declaredNames_iff (options : Options) {model : Model}
    (interfacesDistinct : model.interfaceNames.Nodup)
    (aliasesApart : ∀ name ∈ model.aliasNames,
      name ∉ model.enumerationNames ∧ name ∉ model.interfaceNames) :
    (declaredNames options model).Nodup ↔
      model.enumerationNames.Nodup ∧ (declaredAliasNames options model).Nodup ∧
        model.enumerationNames.Disjoint model.interfaceNames := by
  have apart : ∀ name ∈ declaredAliasNames options model,
      name ∉ model.enumerationNames ∧ name ∉ model.interfaceNames := by
    intro name member
    obtain ⟨entity, declared, rfl⟩ := List.mem_map.mp member
    exact aliasesApart _ (List.mem_map_of_mem (List.mem_filter.mp declared).1)
  have fromInterfaces : (declaredAliasNames options model).Disjoint model.interfaceNames :=
    fun name member => (apart name member).2
  have fromEnumerations : model.enumerationNames.Disjoint (declaredAliasNames options model) :=
    fun name isEnumeration member => (apart name member).1 isEnumeration
  rw [declaredNames, List.nodup_append', List.nodup_append', List.disjoint_append_right]
  constructor
  · rintro ⟨enumerationsDistinct, ⟨aliasesDistinct, -, -⟩, -, keptApart⟩
    exact ⟨enumerationsDistinct, aliasesDistinct, keptApart⟩
  · rintro ⟨enumerationsDistinct, aliasesDistinct, keptApart⟩
    exact ⟨enumerationsDistinct, ⟨aliasesDistinct, interfacesDistinct, fromInterfaces⟩,
      fromEnumerations, keptApart⟩

/-- If a model passes a cleanup and a strict validation, its header declares each type as often
as the model has it, in a block of its own. The interfaces then have distinct names, which no
alias has, and neither does an alias have the name of an enumeration; so all declared names are
distinct exactly if those of the enumerations are and those of the declared aliases, and no
enumeration has the name of an interface. -/
theorem declared_names_distinct_iff (options : Options) (rules : Rules) (model : Model)
    (passes : (runAll (standard rules true) { model }).failure? = none) :
    let checked := (runAll (standard rules true) { model }).analysis.model
    (∀ declared, declarations options checked = .ok declared ->
        (declared.map Declaration.name).Perm (declaredNames options checked)) ∧
      (∀ header, render options checked = .ok header ->
        ∃ ordering, ShowsInOrder options checked ordering header) ∧
      checked.interfaceNames.Nodup ∧
      (∀ name ∈ checked.aliasNames,
        name ∉ checked.enumerationNames ∧ name ∉ checked.interfaceNames) ∧
      ((declaredNames options checked).Nodup ↔
        checked.enumerationNames.Nodup ∧ (declaredAliasNames options checked).Nodup ∧
          checked.enumerationNames.Disjoint checked.interfaceNames) := by
  intro checked
  obtain ⟨isCleaned, passesIff⟩ := Phase.runAll_standard_strict rules model
  have isChecked : checked = (clean rules model).model := isCleaned
  have interfacesDistinct : checked.interfaceNames.Nodup := by
    rw [isChecked]
    exact Validation.nodup_interfaceNames_of_findings_eq_nil (passesIff.mp passes)
  have aliasesApart : ∀ name ∈ checked.aliasNames,
      name ∉ checked.enumerationNames ∧ name ∉ checked.interfaceNames := by
    rw [isChecked]
    exact (Cleanup.isClean_clean rules model).aliases_apart
  refine ⟨fun declared succeeded => map_name_declarations_perm succeeded, fun header rendered => ?_,
    interfacesDistinct, aliasesApart,
    nodup_declaredNames_iff options interfacesDistinct aliasesApart⟩
  obtain ⟨ordering, rearranged, isOrdering, laysOut⟩ := exists_laysOut_of_render_eq_ok rendered
  exact ⟨ordering, showsInOrder_of_laysOut rearranged isOrdering laysOut⟩

/-- A model with an alias that gives way to an enumeration, and with one that the target
provides, twice. -/
def repeatedlyProvidedModel : Model :=
  { enumerations := [{ name := "Kind", kind := .string }]
    aliases :=
      [{ name := "integer", type := .base "int" }, { name := "Kind", type := .base "int" },
        { name := "integer", type := .base "long" }, { name := "Id", type := .base "int" }]
    interfaces := [{ name := "Range", dependencies := .ofList ["Id"] }] }

/-- Such a model passes, and its header declares no name twice. -/
theorem repeatedly_provided_alias_is_no_clash :
    (runAll (standard .standard true) { model := repeatedlyProvidedModel }).failure? = none ∧
      ∃ declared, declarations {}
          (runAll (standard .standard true) { model := repeatedlyProvidedModel }).analysis.model =
            .ok declared ∧
        (declared.map Declaration.name).Nodup := by
  have passes : (runAll (standard .standard true)
      { model := repeatedlyProvidedModel }).failure? = none := by cbv
  have isChecked : (runAll (standard .standard true)
      { model := repeatedlyProvidedModel }).analysis.model =
        (clean .standard repeatedlyProvidedModel).model :=
    (Phase.runAll_standard_strict .standard repeatedlyProvidedModel).1
  obtain ⟨declaresAll, -, -, -, distinctIff⟩ :=
    declared_names_distinct_iff {} .standard repeatedlyProvidedModel passes
  rw [isChecked] at declaresAll distinctIff ⊢
  obtain ⟨declared, succeeded⟩ : ∃ declared,
      declarations {} (clean .standard repeatedlyProvidedModel).model = .ok declared :=
    exists_declarations_of_isOk {} (by decide +kernel)
  refine ⟨passes, declared, succeeded, (declaresAll declared succeeded).nodup_iff.mpr ?_⟩
  have enumerations : (clean .standard repeatedlyProvidedModel).model.enumerationNames =
      ["Kind"] := by decide +kernel
  have interfaces : (clean .standard repeatedlyProvidedModel).model.interfaceNames =
      ["Range"] := by decide +kernel
  rw [distinctIff, enumerations, interfaces]
  exact ⟨by simp, by decide +kernel, by simp⟩

/-- A model with two aliases of one name, and with an enumeration and an interface of another
one. -/
def clashingNamesModel : Model :=
  { enumerations := [{ name := "Kind", kind := .string }]
    aliases := [{ name := "Id", type := .base "int" }, { name := "Id", type := .base "long" }]
    interfaces := [{ name := "Kind" }] }

/-- A model may pass a cleanup and a strict validation although its header declares the name of
two aliases twice, and also the name that an enumeration and an interface share. -/
theorem clashing_names_are_declared :
    (runAll (standard .standard true) { model := clashingNamesModel }).failure? = none ∧
      ∃ declared, declarations {}
          (runAll (standard .standard true) { model := clashingNamesModel }).analysis.model =
            .ok declared ∧
        (declared.map Declaration.name).count "Id" = 2 ∧
        (declared.map Declaration.name).count "Kind" = 2 ∧
        ¬ (declared.map Declaration.name).Nodup := by
  have passes : (runAll (standard .standard true)
      { model := clashingNamesModel }).failure? = none := by cbv
  have isChecked : (runAll (standard .standard true)
      { model := clashingNamesModel }).analysis.model =
        (clean .standard clashingNamesModel).model :=
    (Phase.runAll_standard_strict .standard clashingNamesModel).1
  rw [isChecked]
  obtain ⟨declared, succeeded⟩ : ∃ declared,
      declarations {} (clean .standard clashingNamesModel).model = .ok declared :=
    exists_declarations_of_isOk {} (by decide +kernel)
  have permuted := map_name_declarations_perm succeeded
  refine ⟨passes, declared, succeeded, ?_, ?_, ?_⟩
  · rw [permuted.count_eq]
    decide +kernel
  · rw [permuted.count_eq]
    decide +kernel
  · rw [permuted.nodup_iff]
    decide +kernel

end ProtocolHeaders.Header.Declarations
