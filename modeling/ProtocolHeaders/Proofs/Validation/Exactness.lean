import Mathlib
import ProtocolHeaders.Proofs.Cleanup.Clean
import ProtocolHeaders.Validation.Basic

/-!
# Every defect is found once

Validation goes over a model in several loops, some of which remember what they have seen. What
it looks for can be said without loops: names and flattened fields that a list holds more than
once, bases that no top-level interface has as its name, and properties and aliases whose type
says nothing. There is one finding for each such defect, where a list that holds one thing
several times counts as often as it holds it too often. So a model has no findings exactly if it
has no defects.
-/

namespace ProtocolHeaders.Validation

open Cleanup (IsWithin)
open Inheritance (flatten)

/-! ## Defects -/

/-- A type expression says nothing if it is no literal, is written with blanks only, and is no
union that has alternatives. -/
def SaysNothing (type : TypeExpr) : Prop :=
  type.kind ≠ .literal ∧ (∀ c ∈ type.value.toList, Text.isBlank c = true) ∧
    (type.kind = .union -> type.items = [])

/-- A type is told to be empty if it says nothing. -/
theorem isEmptyType_iff (type : TypeExpr) : isEmptyType type = true ↔ SaysNothing type := by
  obtain ⟨kind, value, items, since, deprecated⟩ := type
  cases kind <;> simp [isEmptyType, SaysNothing, Text.onlyBlanks, and_comm]

instance (type : TypeExpr) : Decidable (SaysNothing type) :=
  decidable_of_iff _ (isEmptyType_iff type)

/-- How many members of a list are there too often: its length less the number of different
members. -/
def surplus (names : List String) : Nat :=
  names.length - names.toFinset.card

mutual

/-- A structure and, behind it, those inside it at any depth. -/
def structures : Interface -> List Interface
  | ⟨name, documentation, bases, properties, children, dependencies, since, deprecated⟩ =>
      ⟨name, documentation, bases, properties, children, dependencies, since, deprecated⟩ ::
        structuresOfAll children

/-- Structures and those inside them at any depth. -/
def structuresOfAll : List Interface -> List Interface
  | [] => []
  | interface :: others => structures interface ++ structuresOfAll others

end

/-- A model without any defect. -/
structure IsFlawless (model : Model) : Prop where
  names_distinct : model.interfaceNames.Nodup
  bases_known : ∀ interface ∈ model.interfaces, ∀ base ∈ interface.bases,
    base ∈ model.interfaceNames
  fields_distinct : ∀ interface ∈ model.interfaces, (flatten model.interfaces interface).Nodup
  properties_typed : ∀ interface, IsWithin model.interfaces interface ->
    ∀ property ∈ interface.properties, ¬ SaysNothing property.type
  aliases_typed : ∀ entity ∈ model.aliases, ¬ SaysNothing entity.type

/-- The number of unknown bases of an interface. -/
def unknownBaseCount (model : Model) (interface : Interface) : Nat :=
  interface.bases.countP fun base => base ∉ model.interfaceNames

/-- The number of properties of structures whose type says nothing. -/
def emptyPropertyCount (interfaces : List Interface) : Nat :=
  (interfaces.flatMap Interface.properties).countP fun property => SaysNothing property.type

/-- The number of defects of a model. -/
def defectCount (model : Model) : Nat :=
  surplus model.interfaceNames +
    (model.interfaces.map (unknownBaseCount model)).sum +
    (model.interfaces.map fun interface => surplus (flatten model.interfaces interface)).sum +
    emptyPropertyCount (structuresOfAll model.interfaces) +
    model.aliases.countP fun entity => SaysNothing entity.type

/-! ## Structures inside others -/

/-- An interface comes before those inside it. -/
theorem structures_eq (interface : Interface) :
    structures interface = interface :: structuresOfAll interface.children := by
  cases interface
  rw [structures]

/-- Interfaces are gone through one by one. -/
theorem structuresOfAll_eq_flatMap (interfaces : List Interface) :
    structuresOfAll interfaces = interfaces.flatMap structures := by
  induction interfaces with
  | nil => rfl
  | cons interface others inductionHypothesis =>
      rw [structuresOfAll, inductionHypothesis, List.flatMap_cons]

mutual

/-- What is inside one of the structures of an interface is one of them too. -/
theorem children_subset_structures : (interface : Interface) ->
    ∀ outer ∈ structures interface, outer.children ⊆ structures interface
  | ⟨name, documentation, bases, properties, children, dependencies, since, deprecated⟩ => by
      intro outer member
      rw [structures_eq] at member ⊢
      rcases List.mem_cons.mp member with rfl | inside
      · intro inner isChild
        rw [structuresOfAll_eq_flatMap]
        refine List.mem_cons_of_mem _ (List.mem_flatMap.mpr ⟨inner, isChild, ?_⟩)
        rw [structures_eq]
        exact List.mem_cons_self
      · have further := children_subset_structuresOfAll children outer inside
        exact fun inner isChild => List.mem_cons_of_mem _ (further isChild)

/-- What is inside one of the structures of interfaces is one of them too. -/
theorem children_subset_structuresOfAll : (interfaces : List Interface) ->
    ∀ outer ∈ structuresOfAll interfaces, outer.children ⊆ structuresOfAll interfaces
  | [] => nofun
  | interface :: others => by
      intro outer member inner isChild
      rw [structuresOfAll, List.mem_append] at member ⊢
      rcases member with ofFirst | ofOthers
      · exact .inl (children_subset_structures interface outer ofFirst isChild)
      · exact .inr (children_subset_structuresOfAll others outer ofOthers isChild)

end

mutual

/-- The structures of an interface are where it is. -/
theorem isWithin_of_mem_structures {outermost : List Interface} : (interface : Interface) ->
    IsWithin outermost interface -> ∀ inner ∈ structures interface, IsWithin outermost inner
  | ⟨name, documentation, bases, properties, children, dependencies, since, deprecated⟩ => by
      intro within inner member
      rw [structures_eq] at member
      rcases List.mem_cons.mp member with rfl | inside
      · exact within
      · exact isWithin_of_mem_structuresOfAll children
          (fun child isChild => within.inside isChild) inner inside

/-- The structures of interfaces are where these are. -/
theorem isWithin_of_mem_structuresOfAll {outermost : List Interface} :
    (interfaces : List Interface) -> (∀ interface ∈ interfaces, IsWithin outermost interface) ->
      ∀ inner ∈ structuresOfAll interfaces, IsWithin outermost inner
  | [] => nofun
  | interface :: others => by
      intro within inner member
      rw [structuresOfAll, List.mem_append] at member
      obtain ⟨firstWithin, othersWithin⟩ := List.forall_mem_cons.mp within
      rcases member with ofFirst | ofOthers
      · exact isWithin_of_mem_structures interface firstWithin inner ofFirst
      · exact isWithin_of_mem_structuresOfAll others othersWithin inner ofOthers

end

/-- The structures of interfaces are these and, at any depth, those inside them. -/
theorem mem_structuresOfAll_iff {interfaces : List Interface} {interface : Interface} :
    interface ∈ structuresOfAll interfaces ↔ IsWithin interfaces interface := by
  constructor
  · exact isWithin_of_mem_structuresOfAll interfaces (fun _ member => .listed member) interface
  · intro within
    induction within with
    | @listed interface member =>
        rw [structuresOfAll_eq_flatMap, List.mem_flatMap]
        refine ⟨interface, member, ?_⟩
        rw [structures_eq]
        exact List.mem_cons_self
    | inside _ isChild inductionHypothesis =>
        exact children_subset_structuresOfAll interfaces _ inductionHypothesis isChild

/-! ## Counting the findings -/

/-- As many members of a list repeat an earlier key as there are keys too often. -/
theorem length_repeats {α : Type} (key : α -> String) (items : List α) :
    (Name.repeats key items).length = surplus (items.map key) := by
  have parted := Name.length_firsts_add_length_repeats key items
  have distinct := List.toFinset_card_of_nodup (Name.nodup_map_firsts key items)
  have sameKeys : ((Name.firsts key items).map key).toFinset = (items.map key).toFinset := by
    ext name
    rw [List.mem_toFinset, List.mem_toFinset, Name.mem_map_firsts]
  rw [sameKeys, List.length_map] at distinct
  rw [surplus, List.length_map, distinct]
  omega

-- A name that is there three times is repeated twice.
example : surplus ["x", "y", "x", "x"] = 2 := by decide

/-- A list has nothing too often exactly if its members are distinct. -/
theorem surplus_eq_zero_iff (names : List String) : surplus names = 0 ↔ names.Nodup := by
  have counted := length_repeats id names
  rw [List.map_id] at counted
  rw [← counted, List.length_eq_zero_iff, Name.repeats_eq_nil_iff, List.map_id]

/-- A base is known exactly if a top-level interface has its name. -/
theorem isKnown_iff (model : Model) (base : String) :
    Inheritance.isKnown model.interfaces base = true ↔ base ∈ model.interfaceNames := by
  simp [Inheritance.isKnown, Inheritance.resolve?, Model.interfaceNames]

/-- Each base that no interface has is found. -/
theorem length_unknownBases (model : Model) (interface : Interface) :
    (interface.bases.filter (!Inheritance.isKnown model.interfaces ·)).length =
      unknownBaseCount model interface := by
  rw [unknownBaseCount, List.countP_eq_length_filter]
  congr 1
  refine List.filter_congr fun base _ => ?_
  rw [Bool.eq_iff_iff, decide_eq_true_iff, ← isKnown_iff, Bool.not_eq_true', Bool.not_eq_true]

/-- Each type that says nothing is found. -/
theorem length_filter_isEmptyType {α : Type} (typeOf : α -> TypeExpr) (items : List α) :
    (items.filter fun item => isEmptyType (typeOf item)).length =
      items.countP fun item => SaysNothing (typeOf item) := by
  rw [List.countP_eq_length_filter]
  congr 1
  refine List.filter_congr fun item _ => ?_
  rw [Bool.eq_iff_iff, decide_eq_true_iff, isEmptyType_iff]

/-- Empty properties of several interfaces add up. -/
theorem emptyPropertyCount_append (first second : List Interface) :
    emptyPropertyCount (first ++ second) =
      emptyPropertyCount first + emptyPropertyCount second := by
  rw [emptyPropertyCount, List.flatMap_append, List.countP_append]
  rfl

mutual

/-- There is one finding for each property in a structure or inside it whose type says
nothing, whatever the path is. -/
theorem length_emptyProperties (path : String) : (interface : Interface) ->
    (emptyProperties path interface).length = emptyPropertyCount (structures interface)
  | ⟨name, documentation, bases, properties, children, dependencies, since, deprecated⟩ => by
      have inside := length_emptyPropertiesOfAll path children
      have own : (ownEmptyProperties path properties).length =
          properties.countP fun property => SaysNothing property.type := by
        rw [ownEmptyProperties, List.length_map, length_filter_isEmptyType]
      rw [emptyProperties, structures, List.length_append, own, inside, emptyPropertyCount,
        emptyPropertyCount, List.flatMap_cons, List.countP_append]

/-- There is one finding for each property in structures or inside them whose type says
nothing. -/
theorem length_emptyPropertiesOfAll (path : String) : (interfaces : List Interface) ->
    (emptyPropertiesOfAll path interfaces).length =
      emptyPropertyCount (structuresOfAll interfaces)
  | [] => rfl
  | interface :: others => by
      rw [emptyPropertiesOfAll, structuresOfAll, List.length_append, emptyPropertyCount_append,
        length_emptyProperties _ interface, length_emptyPropertiesOfAll path others]

end

/-- The findings about one interface are its unknown bases, its repeated fields, and the
properties in it whose type says nothing. -/
theorem length_interfaceFindings (model : Model) (interface : Interface) :
    (interfaceFindings model.interfaces interface).length =
      unknownBaseCount model interface + surplus (flatten model.interfaces interface) +
        emptyPropertyCount (structures interface) := by
  rw [interfaceFindings, List.length_append, List.length_append, List.length_map,
    List.length_map, length_unknownBases, length_repeats, List.map_id, length_emptyProperties]

/-- The properties of all structures whose type says nothing, counted interface by interface. -/
theorem emptyPropertyCount_structuresOfAll (interfaces : List Interface) :
    emptyPropertyCount (structuresOfAll interfaces) =
      (interfaces.map fun interface => emptyPropertyCount (structures interface)).sum := by
  induction interfaces with
  | nil => rfl
  | cons interface others inductionHypothesis =>
      rw [List.map_cons, List.sum_cons, ← inductionHypothesis, structuresOfAll,
        emptyPropertyCount_append]

/-- There are as many findings as defects. -/
theorem length_findings (model : Model) : (findings model).length = defectCount model := by
  have interfaces : (model.interfaces.flatMap (interfaceFindings model.interfaces)).length =
      (model.interfaces.map (unknownBaseCount model)).sum +
        (model.interfaces.map fun interface =>
          surplus (flatten model.interfaces interface)).sum +
        emptyPropertyCount (structuresOfAll model.interfaces) := by
    simp only [List.length_flatMap, length_interfaceFindings, emptyPropertyCount_structuresOfAll,
      List.sum_map_add]
  rw [findings, List.length_append, List.length_append, List.length_map, List.length_map,
    length_repeats, interfaces, length_filter_isEmptyType, defectCount, Model.interfaceNames]
  omega

/-- There are no defects exactly in a flawless model. -/
theorem defectCount_eq_zero_iff (model : Model) : defectCount model = 0 ↔ IsFlawless model := by
  simp only [defectCount, Nat.add_eq_zero_iff, surplus_eq_zero_iff,
    List.sum_eq_zero_iff_forall_eq_nat, List.forall_mem_map, unknownBaseCount,
    emptyPropertyCount, List.countP_eq_zero, List.forall_mem_flatMap, decide_eq_true_eq,
    mem_structuresOfAll_iff, not_not]
  constructor
  · rintro ⟨⟨⟨⟨names, bases⟩, fields⟩, properties⟩, aliases⟩
    exact ⟨names, bases, fields, properties, aliases⟩
  · rintro ⟨names, bases, fields, properties, aliases⟩
    exact ⟨⟨⟨⟨names, bases⟩, fields⟩, properties⟩, aliases⟩

/-- A model has no findings exactly if it is flawless, and in general one for each defect. -/
theorem findings_are_defects (model : Model) :
    (findings model = [] ↔ IsFlawless model) ∧ (findings model).length = defectCount model := by
  refine ⟨?_, length_findings model⟩
  rw [← List.length_eq_zero_iff, length_findings, defectCount_eq_zero_iff]

end ProtocolHeaders.Validation
