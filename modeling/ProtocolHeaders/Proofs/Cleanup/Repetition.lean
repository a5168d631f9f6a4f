import ProtocolHeaders.Proofs.Cleanup.Changes
import ProtocolHeaders.Proofs.Cleanup.Clean
import ProtocolHeaders.Proofs.Text.Capitals

/-!
# Cleaning up a second time

A cleanup leaves a model alone if the model is clean, its enumerations have distinct names that
the rules do not rename, and their values are as the cleanup would make them. What a cleanup
produces is clean and has such values. Only its renames may call for another one: a new name can
be the name of another enumeration, or one that the rules rename in turn. Where they do not, a
second cleanup finds nothing to do and counts nothing.
-/

namespace ProtocolHeaders.Cleanup

/-! ## Values -/

/-- Quotes are taken off once and for all. -/
theorem withoutQuotes_withoutQuotes (text : String) :
    withoutQuotes (withoutQuotes text) = withoutQuotes text := by
  simp [withoutQuotes, List.filter_filter]

/-- A value is normalized once and for all. -/
theorem normalizeValue_normalizeValue (isString : Bool) (value : EnumerationValue) :
    normalizeValue isString (normalizeValue isString value) = normalizeValue isString value := by
  cases isString <;>
    simp [normalizeValue, Text.capitalize_capitalize, withoutQuotes_withoutQuotes]

/-- Values that are in shape stay as they are. -/
theorem normalizeEnumeration_normalizeEnumeration (enumeration : Enumeration) :
    normalizeEnumeration (normalizeEnumeration enumeration) =
      normalizeEnumeration enumeration := by
  simp [normalizeEnumeration, Enumeration.isString, normalizeValue_normalizeValue]

/-! ## Settled models -/

/-- A model that leaves nothing to do for a cleanup by some rules. -/
structure IsSettled (rules : Rules) (model : Model) : Prop extends IsClean rules model where
  names_distinct : model.enumerationNames.Nodup
  names_kept : ∀ name ∈ model.enumerationNames, name ∉ rules.enumRenames.keys
  values_normal : ∀ enumeration ∈ model.enumerations,
    normalizeEnumeration enumeration = enumeration

/-- After a cleanup only the names of the enumerations may be unsettled. -/
theorem isSettled_clean {rules : Rules} {model : Model}
    (distinct : (clean rules model).model.enumerationNames.Nodup)
    (kept : ∀ name ∈ (clean rules model).model.enumerationNames, name ∉ rules.enumRenames.keys) :
    IsSettled rules (clean rules model).model where
  toIsClean := isClean_clean rules model
  names_distinct := distinct
  names_kept := kept
  values_normal := by
    intro enumeration member
    rw [enumerations_clean] at member
    obtain ⟨original, -, rfl⟩ := List.mem_map.mp member
    exact normalizeEnumeration_normalizeEnumeration _

mutual

/-- An interface is not changed by dropping bases that neither it nor what is inside it has. -/
theorem dropBases_eq_self {outermost : List Interface} {removed : NameSet}
    (kept : ∀ inner, IsWithin outermost inner -> ∀ base ∈ inner.bases, base ∉ removed) :
    (interface : Interface) -> IsWithin outermost interface ->
      dropBases removed interface = interface
  | ⟨name, documentation, bases, properties, children, dependencies, since, deprecated⟩ => by
      intro within
      have keepsBases : bases.filter (!removed.contains ·) = bases :=
        List.filter_eq_self.mpr fun base member => by simpa using kept _ within base member
      have keepsChildren : dropBasesOfAll removed children = children :=
        dropBasesOfAll_eq_self kept children fun child isChild => within.inside isChild
      rw [dropBases, keepsBases, keepsChildren]

/-- Interfaces are not changed by dropping bases that neither they nor what is inside them
has. -/
theorem dropBasesOfAll_eq_self {outermost : List Interface} {removed : NameSet}
    (kept : ∀ inner, IsWithin outermost inner -> ∀ base ∈ inner.bases, base ∉ removed) :
    (interfaces : List Interface) -> (∀ interface ∈ interfaces, IsWithin outermost interface) ->
      dropBasesOfAll removed interfaces = interfaces
  | [] => fun _ => rfl
  | interface :: others => by
      intro within
      obtain ⟨firstWithin, othersWithin⟩ := List.forall_mem_cons.mp within
      rw [dropBasesOfAll, dropBases_eq_self kept interface firstWithin,
        dropBasesOfAll_eq_self kept others othersWithin]

end

namespace IsSettled

variable {rules : Rules} {model : Model}

/-- No enumeration of a settled model gets a new name. -/
theorem get?_eq_none (settled : IsSettled rules model) {enumeration : Enumeration}
    (member : enumeration ∈ model.enumerations) :
    rules.enumRenames.get? enumeration.name = none :=
  NameTable.get?_eq_none_iff.mpr (settled.names_kept _ (List.mem_map_of_mem member))

/-- The enumerations of a settled model stay. -/
theorem enumerations_clean (settled : IsSettled rules model) :
    (clean rules model).model.enumerations = model.enumerations := by
  rw [Cleanup.enumerations_clean, Name.firsts_eq_self settled.names_distinct]
  refine (List.map_congr_left fun enumeration member => ?_).trans (List.map_id _)
  rw [cleanEnumeration, renameEnumeration, settled.get?_eq_none member, Option.getD_none]
  exact settled.values_normal enumeration member

/-- All interfaces of a settled model survive. -/
theorem survivingInterfaces_eq (settled : IsSettled rules model) :
    survivingInterfaces rules model = model.interfaces :=
  List.filter_eq_self.mpr fun _ member =>
    decide_eq_true (settled.keeps_interfaces _ (List.mem_map_of_mem member))

/-- The interfaces of a settled model keep their names. -/
theorem interfaceNames_clean (settled : IsSettled rules model) :
    (clean rules model).model.interfaceNames = model.interfaceNames := by
  rw [Model.interfaceNames, interfaces_clean, filter_keepsInterface,
    settled.survivingInterfaces_eq, List.map_map]
  exact List.map_congr_left fun interface _ => name_dropBases _ interface

/-- All aliases of a settled model survive. -/
theorem survivingAliases_eq (settled : IsSettled rules model) :
    survivingAliases rules model (clean rules model).model = model.aliases := by
  refine List.filter_eq_self.mpr fun entity member => decide_eq_true ?_
  have named : entity.name ∈ model.aliasNames := List.mem_map_of_mem member
  rw [Model.enumerationNames, settled.enumerations_clean, settled.interfaceNames_clean]
  exact ⟨settled.keeps_aliases _ named, settled.aliases_apart _ named⟩

/-- The aliases of a settled model keep their names. -/
theorem aliasNames_clean (settled : IsSettled rules model) :
    (clean rules model).model.aliasNames = model.aliasNames := by
  rw [Model.aliasNames, aliases_clean, filter_keepsAlias, settled.survivingAliases_eq,
    List.map_map]
  rfl

/-- All that a node of a settled model depends on is needed. -/
theorem filter_isNeeded (settled : IsSettled rules model) {node : Node}
    (member : node ∈ model.nodes) :
    node.dependencies.filter (isNeeded (clean rules model).model) = node.dependencies := by
  refine NameSet.eq_of_mem_iff fun name => ?_
  rw [NameSet.mem_filter, isNeeded_iff, settled.aliasNames_clean, settled.interfaceNames_clean,
    Model.enumerationNames, settled.enumerations_clean]
  exact and_iff_left_of_imp (settled.depends_on_nodes node member name)

/-- The interfaces of a settled model stay. -/
theorem interfaces_clean (settled : IsSettled rules model) :
    (clean rules model).model.interfaces = model.interfaces := by
  rw [Cleanup.interfaces_clean, filter_keepsInterface, settled.survivingInterfaces_eq]
  refine (List.map_congr_left fun interface member => ?_).trans (List.map_id _)
  have isNode : Node.interface interface ∈ model.nodes :=
    List.mem_append_right _ (List.mem_map_of_mem member)
  have sameDependencies : interface.dependencies.filter (isNeeded (clean rules model).model) =
      interface.dependencies := settled.filter_isNeeded isNode
  rw [cleanInterface, sameDependencies,
    dropBases_eq_self settled.extends_kept interface (.listed member)]
  cases interface
  rfl

/-- The aliases of a settled model stay. -/
theorem aliases_clean (settled : IsSettled rules model) :
    (clean rules model).model.aliases = model.aliases := by
  rw [Cleanup.aliases_clean, filter_keepsAlias, settled.survivingAliases_eq]
  refine (List.map_congr_left fun entity member => ?_).trans (List.map_id _)
  have isNode : Node.typeAlias entity ∈ model.nodes :=
    List.mem_append_left _ (List.mem_map_of_mem member)
  have sameDependencies : entity.dependencies.filter (isNeeded (clean rules model).model) =
      entity.dependencies := settled.filter_isNeeded isNode
  rw [cleanAlias, sameDependencies]
  rfl

/-- A cleanup leaves a settled model as it is. -/
theorem model_clean (settled : IsSettled rules model) : (clean rules model).model = model := by
  have enumerations := settled.enumerations_clean
  have aliases := settled.aliases_clean
  have interfaces := settled.interfaces_clean
  have requests : (clean rules model).model.requests = model.requests := rfl
  have notifications : (clean rules model).model.notifications = model.notifications := rfl
  cases cleaned : (clean rules model).model
  simp only [cleaned] at enumerations aliases interfaces requests notifications
  rw [enumerations, aliases, interfaces, requests, notifications]

/-- There is nothing to rename in a settled model. -/
theorem renames_eq_nil (settled : IsSettled rules model) :
    renames rules (deduplicate model) = [] := by
  refine List.filterMap_eq_nil_iff.mpr fun enumeration member => ?_
  have isOld : enumeration ∈ model.enumerations := by
    rwa [deduplicate, Name.firsts_eq_self settled.names_distinct] at member
  rw [settled.get?_eq_none isOld, Option.map_none]

/-- A cleanup of a settled model counts nothing. -/
theorem report_clean (settled : IsSettled rules model) : (clean rules model).report = {} := by
  have counts := counts_clean rules model
  obtain ⟨deduplicated, -, removedInterfaces, removedAliases, droppedBases, pruned⟩ := counts
  have renamed : (clean rules model).report.renamedEnumerations =
      (renames rules (deduplicate model)).length := rfl
  rw [settled.renames_eq_nil, List.length_nil] at renamed
  rw [settled.survivingAliases_eq] at pruned
  rw [settled.survivingInterfaces_eq] at droppedBases pruned
  rw [settled.model_clean] at deduplicated removedInterfaces removedAliases droppedBases pruned
  cases counted : (clean rules model).report
  simp only [counted] at *
  rw [Report.mk.injEq]
  exact ⟨by omega, renamed, by omega, by omega, by omega, by omega⟩

end IsSettled

/-- If the enumerations of a cleaned model have distinct names that the rules do not rename, a
second cleanup leaves the model exactly as it is and counts nothing. -/
theorem clean_clean (rules : Rules) (model : Model)
    (distinct : (clean rules model).model.enumerationNames.Nodup)
    (kept : ∀ name ∈ (clean rules model).model.enumerationNames, name ∉ rules.enumRenames.keys) :
    (clean rules (clean rules model).model).model = (clean rules model).model ∧
      (clean rules (clean rules model).model).report =
        { deduplicatedEnumerations := 0, renamedEnumerations := 0, removedInterfaces := 0,
          removedAliases := 0, droppedBases := 0, prunedDependencies := 0 } := by
  have settled := isSettled_clean distinct kept
  exact ⟨settled.model_clean, settled.report_clean⟩

/-- A model on which each stage of a cleanup by the built-in rules has something to do. -/
def untidyModel : Model :=
  { enumerations :=
      [{ name := "InitializeError", kind := .integer
         values := [{ name := "ßeta", value := "ŉ1" }] },
        { name := "Kind", kind := .string
          values := [{ name := "ǰoin", value := "'it is \"plain\"'" }] },
        { name := "Kind", kind := .unsigned }]
    aliases :=
      [{ name := "LSPAny", type := .base "json" }, { name := "Kind", type := .base "int" },
        { name := "Id", type := .base "int", dependencies := .ofList ["Base", "Kind", "Missing"] }]
    interfaces :=
      [{ name := "T" },
        { name := "Base", bases := ["T", "Gone"]
          children := [{ name := "inner", bases := ["Base", "LSPObject"] }]
          dependencies := .ofList ["Id", "InitializeErrorCodes", "LSPAny"] }] }

/-- The first cleanup of it changes something of each kind, the second one nothing. -/
theorem untidy_model_is_settled_at_once :
    let once := clean .standard untidyModel
    let twice := clean .standard once.model
    once.report = ⟨1, 1, 1, 2, 2, 4⟩ ∧
      (once.model.enumerationNames.Nodup ∧
        ∀ name ∈ once.model.enumerationNames, name ∉ Rules.standard.enumRenames.keys) ∧
      twice.model = once.model ∧ twice.report = ⟨0, 0, 0, 0, 0, 0⟩ := by
  have names : (clean .standard untidyModel).model.enumerationNames =
      ["InitializeErrorCodes", "Kind"] := by
    decide +kernel
  have distinct : (clean .standard untidyModel).model.enumerationNames.Nodup := by
    rw [names]
    decide
  have kept : ∀ name ∈ (clean .standard untidyModel).model.enumerationNames,
      name ∉ Rules.standard.enumRenames.keys := by
    rw [names]
    decide
  exact ⟨by decide +kernel, ⟨distinct, kept⟩, clean_clean .standard untidyModel distinct kept⟩

end ProtocolHeaders.Cleanup
