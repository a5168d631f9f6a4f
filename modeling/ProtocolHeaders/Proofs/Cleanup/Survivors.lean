import ProtocolHeaders.Cleanup.Basic
import ProtocolHeaders.Model.Node

/-!
# What a cleanup leaves

The stages of a cleanup are defined one after the other, each by names that earlier stages
may have changed. Seen from its result a cleanup is simpler: which entities survive, and
which dependencies they keep, depends only on the rules and on the names in the cleaned
model.
-/

namespace ProtocolHeaders.Cleanup

/-! ## Pruning -/

@[simp] theorem enumerationNames_prune (condition : String -> Bool) (model : Model) :
    (prune condition model).enumerationNames = model.enumerationNames := rfl

@[simp] theorem aliasNames_prune (condition : String -> Bool) (model : Model) :
    (prune condition model).aliasNames = model.aliasNames := by
  simp [prune, Model.aliasNames, Function.comp_def]

@[simp] theorem interfaceNames_prune (condition : String -> Bool) (model : Model) :
    (prune condition model).interfaceNames = model.interfaceNames := by
  simp [prune, Model.interfaceNames, Function.comp_def]

/-- Pruning leaves the names of the enumerations alone. -/
theorem namesEnumeration_prune (condition : String -> Bool) (model : Model) :
    namesEnumeration (prune condition model) = namesEnumeration model := rfl

/-- Pruning dependencies leaves the same names dangling. -/
theorem isDangling_prune (condition : String -> Bool) (model : Model) :
    isDangling (prune condition model) = isDangling model := by
  funext name
  simp [isDangling]

/-- Pruning twice is pruning once, by either condition. -/
theorem prune_prune (first second : String -> Bool) (model : Model) :
    prune second (prune first model) = prune (fun name => first name || second name) model := by
  have bothConditions : ∀ names : NameSet,
      (names.filter (!first ·)).filter (!second ·) =
        names.filter fun name => !(first name || second name) := by
    intro names
    apply NameSet.eq_of_mem_iff
    simp [and_assoc]
  simp [prune, bothConditions, Function.comp_def]

/-! ## Bases -/

/-- Bases are dropped interface by interface. -/
theorem dropBasesOfAll_eq_map (removed : NameSet) (interfaces : List Interface) :
    dropBasesOfAll removed interfaces = interfaces.map (dropBases removed) := by
  induction interfaces with
  | nil => rfl
  | cons interface others inductionHypothesis =>
      rw [dropBasesOfAll, inductionHypothesis, List.map_cons]

@[simp] theorem name_dropBases (removed : NameSet) (interface : Interface) :
    (dropBases removed interface).name = interface.name := by
  cases interface
  rfl

@[simp] theorem dependencies_dropBases (removed : NameSet) (interface : Interface) :
    (dropBases removed interface).dependencies = interface.dependencies := by
  cases interface
  rfl

/-- The bases that are left are those that were not removed. -/
@[simp] theorem bases_dropBases (removed : NameSet) (interface : Interface) :
    (dropBases removed interface).bases = interface.bases.filter (!removed.contains ·) := by
  cases interface
  rfl

/-- Bases are dropped in the children as well. -/
@[simp] theorem children_dropBases (removed : NameSet) (interface : Interface) :
    (dropBases removed interface).children = interface.children.map (dropBases removed) := by
  rw [← dropBasesOfAll_eq_map]
  cases interface
  rfl

/-! ## The cleaned model -/

/-- Whether a name has to be declared before what depends on it: an alias or an interface of
a cleaned model has it, and no enumeration. -/
def isNeeded (cleaned : Model) (name : String) : Bool :=
  !namesEnumeration cleaned name && !isDangling cleaned name

/-- A name is needed if an alias or an interface has it and no enumeration. -/
theorem isNeeded_iff {cleaned : Model} {name : String} :
    isNeeded cleaned name = true ↔
      (name ∈ cleaned.aliasNames ∨ name ∈ cleaned.interfaceNames) ∧
        name ∉ cleaned.enumerationNames := by
  simp [isNeeded, namesEnumeration, isDangling, and_comm]

/-- Whether an alias survives: the rules do not remove it, and nothing richer in the cleaned
model has its name. -/
def keepsAlias (rules : Rules) (cleaned : Model) (entity : Alias) : Bool :=
  !rules.removedAliases.contains entity.name && !isRicher cleaned entity.name

/-- Whether an interface survives: the rules do not remove it. -/
def keepsInterface (rules : Rules) (interface : Interface) : Bool :=
  !rules.removedInterfaces.contains interface.name

/-- What a cleanup makes of an alias that survives. -/
def cleanAlias (cleaned : Model) (entity : Alias) : Alias :=
  { entity with dependencies := entity.dependencies.filter (isNeeded cleaned) }

/-- What a cleanup makes of an interface that survives. -/
def cleanInterface (rules : Rules) (cleaned : Model) (interface : Interface) : Interface :=
  { dropBases rules.removedInterfaces interface with
    dependencies := interface.dependencies.filter (isNeeded cleaned) }

/-- What a cleanup makes of an enumeration that is the first of its name. -/
def cleanEnumeration (rules : Rules) (enumeration : Enumeration) : Enumeration :=
  normalizeEnumeration (renameEnumeration rules enumeration)

/-- A model as the stages before pruning leave it. -/
def selected (rules : Rules) (model : Model) : Model :=
  removeShadowed (removeAliases rules (dropRemovedBases rules (removeInterfaces rules
    (normalize (rename rules (deduplicate model))))))

/-- What is pruned at the end are all names that are not needed, enumeration names and
dangling names alike. -/
theorem model_clean (rules : Rules) (model : Model) :
    (clean rules model).model =
      prune (fun name => !isNeeded (clean rules model).model name) (selected rules model) := by
  have pruned : (clean rules model).model =
      prune (isDangling (prune (namesEnumeration (selected rules model)) (selected rules model)))
        (prune (namesEnumeration (selected rules model)) (selected rules model)) := rfl
  rw [isDangling_prune, prune_prune] at pruned
  have sameNames : (fun name => !isNeeded (clean rules model).model name) = fun name =>
      namesEnumeration (selected rules model) name || isDangling (selected rules model) name := by
    funext name
    rw [isNeeded, pruned, namesEnumeration_prune, isDangling_prune, Bool.not_and, Bool.not_not,
      Bool.not_not]
  rw [sameNames]
  exact pruned

/-- Whether an enumeration or an interface has a name is settled by what is selected. -/
theorem isRicher_model_clean (rules : Rules) (model : Model) :
    isRicher (clean rules model).model = isRicher (selected rules model) := by
  funext name
  rw [model_clean, isRicher, enumerationNames_prune, interfaceNames_prune]
  rfl

/-- The enumerations that are the first of their names, in order. -/
theorem enumerations_clean (rules : Rules) (model : Model) :
    (clean rules model).model.enumerations =
      (Name.firsts Enumeration.name model.enumerations).map (cleanEnumeration rules) := by
  have made : (clean rules model).model.enumerations =
      ((Name.firsts Enumeration.name model.enumerations).map (renameEnumeration rules)).map
        normalizeEnumeration := rfl
  rw [made, List.map_map]
  rfl

/-- The aliases that survive, in order. -/
theorem aliases_selected (rules : Rules) (model : Model) :
    (selected rules model).aliases =
      model.aliases.filter (keepsAlias rules (clean rules model).model) := by
  have parted : (selected rules model).aliases =
      (model.aliases.filter fun entity => !rules.removedAliases.contains entity.name).filter
        fun entity => !isRicher (selected rules model) entity.name := rfl
  rw [parted, List.filter_filter, ← isRicher_model_clean]
  exact List.filter_congr fun entity _ => Bool.and_comm _ _

/-- The interfaces that survive, in order, each with the bases that stay. -/
theorem interfaces_selected (rules : Rules) (model : Model) :
    (selected rules model).interfaces =
      (model.interfaces.filter (keepsInterface rules)).map
        (dropBases rules.removedInterfaces) := by
  rw [← dropBasesOfAll_eq_map]
  rfl

/-- The aliases that survive, in order, each with the dependencies that are needed. -/
theorem aliases_clean (rules : Rules) (model : Model) :
    (clean rules model).model.aliases =
      (model.aliases.filter (keepsAlias rules (clean rules model).model)).map
        (cleanAlias (clean rules model).model) := by
  have pruned := congrArg Model.aliases (model_clean rules model)
  simp only [prune, Bool.not_not] at pruned
  rw [pruned, aliases_selected]
  rfl

/-- The interfaces that survive, in order, each with the bases that stay and the
dependencies that are needed. -/
theorem interfaces_clean (rules : Rules) (model : Model) :
    (clean rules model).model.interfaces =
      (model.interfaces.filter (keepsInterface rules)).map
        (cleanInterface rules (clean rules model).model) := by
  have pruned := congrArg Model.interfaces (model_clean rules model)
  simp only [prune, Bool.not_not] at pruned
  rw [pruned, interfaces_selected, List.map_map]
  refine List.map_congr_left fun interface _ => ?_
  simp [cleanInterface]

/-! ## Nodes -/

/-- Whether a node survives a cleanup. -/
def keepsNode (rules : Rules) (cleaned : Model) : Node -> Bool
  | .typeAlias entity => keepsAlias rules cleaned entity
  | .interface entity => keepsInterface rules entity

/-- What a cleanup makes of a node that survives. -/
def cleanNode (rules : Rules) (cleaned : Model) : Node -> Node
  | .typeAlias entity => .typeAlias (cleanAlias cleaned entity)
  | .interface entity => .interface (cleanInterface rules cleaned entity)

@[simp] theorem name_cleanNode (rules : Rules) (cleaned : Model) (node : Node) :
    (cleanNode rules cleaned node).name = node.name := by
  cases node with
  | typeAlias entity => rfl
  | interface entity => exact name_dropBases _ entity

@[simp] theorem dependencies_cleanNode (rules : Rules) (cleaned : Model) (node : Node) :
    (cleanNode rules cleaned node).dependencies = node.dependencies.filter (isNeeded cleaned) := by
  cases node <;> rfl

/-- The nodes of a cleaned model are the ones that survive, in order. -/
theorem nodes_clean (rules : Rules) (model : Model) :
    (clean rules model).model.nodes =
      (model.nodes.filter (keepsNode rules (clean rules model).model)).map
        (cleanNode rules (clean rules model).model) := by
  simp only [Model.nodes, aliases_clean rules model, interfaces_clean rules model,
    List.filter_append, List.map_append, List.filter_map, List.map_map]
  rfl

end ProtocolHeaders.Cleanup
