import Mathlib.Data.List.Forall2
import ProtocolHeaders.Proofs.Cleanup.Survivors

/-!
# What a cleanup changes

Seen from outside, a cleanup takes a model to another one. `Changes` says what it does to each
entity, in terms of names in the two models only, and that all else stays. `Counts` says how
the report counts the differences between the two. Stages of the cleanup occur in neither, so
that nothing is counted twice or in the wrong stage.
-/

namespace ProtocolHeaders.Cleanup

/-! ## Entities -/

/-- The enumerations that have no namesake before them, in order. -/
def firstOfEachName (enumerations : List Enumeration) : List Enumeration :=
  (enumerations.zipIdx.filter fun (enumeration, position) =>
    enumeration.name ∉ (enumerations.take position).map Enumeration.name).map Prod.fst

/-- The interfaces of a model that its cleanup keeps. -/
def survivingInterfaces (rules : Rules) (before : Model) : List Interface :=
  before.interfaces.filter fun interface => interface.name ∉ rules.removedInterfaces

/-- The aliases of a model that are neither removed nor rivalled by what is richer after its
cleanup. -/
def survivingAliases (rules : Rules) (before after : Model) : List Alias :=
  before.aliases.filter fun entity =>
    entity.name ∉ rules.removedAliases ∧ entity.name ∉ after.enumerationNames ∧
      entity.name ∉ after.interfaceNames

/-- A value has its name and its text brought into shape and nothing else. -/
structure ValueChange (isString : Bool) (before after : EnumerationValue) : Prop where
  name : after.name = Text.capitalize before.name
  value : after.value =
    if isString then withoutQuotes before.value else Text.capitalize before.value
  rest : after.documentation = before.documentation

/-- An enumeration has a new name, if there is one for it, and changed values. -/
structure EnumerationChange (rules : Rules) (before after : Enumeration) : Prop where
  name : after.name = (rules.enumRenames.get? before.name).getD before.name
  values : List.Forall₂ (ValueChange before.isString) before.values after.values
  rest : after = { before with name := after.name, values := after.values }

/-- An interface and those inside it have lost the removed bases and nothing else. -/
inductive Rebased (removed : NameSet) : Interface -> Interface -> Prop where
  | intro {before after : Interface}
      (bases : after.bases = before.bases.filter fun base => base ∉ removed)
      (children : List.Forall₂ (Rebased removed) before.children after.children)
      (rest : after = { before with bases := after.bases, children := after.children }) :
      Rebased removed before after

/-- Of the names in a dependency set those are left that an alias or a top-level interface
has after the cleanup, but no enumeration. -/
def Pruned (cleaned : Model) (before after : NameSet) : Prop :=
  ∀ name, name ∈ after ↔ name ∈ before ∧
    (name ∈ cleaned.aliasNames ∨ name ∈ cleaned.interfaceNames) ∧
    name ∉ cleaned.enumerationNames

/-- A top-level interface is rebased, and its own dependency set is pruned. -/
structure InterfaceChange (rules : Rules) (cleaned : Model) (before after : Interface) :
    Prop where
  dependencies : Pruned cleaned before.dependencies after.dependencies
  rest : Rebased rules.removedInterfaces { before with dependencies := after.dependencies } after

/-- An alias has its dependency set pruned. -/
structure AliasChange (cleaned : Model) (before after : Alias) : Prop where
  dependencies : Pruned cleaned before.dependencies after.dependencies
  rest : after = { before with dependencies := after.dependencies }

/-- All that a cleanup changes in a model. -/
structure Changes (rules : Rules) (before after : Model) : Prop where
  enumerations : List.Forall₂ (EnumerationChange rules) (firstOfEachName before.enumerations)
    after.enumerations
  interfaces : List.Forall₂ (InterfaceChange rules after) (survivingInterfaces rules before)
    after.interfaces
  aliases : List.Forall₂ (AliasChange after) (survivingAliases rules before after) after.aliases
  requests : after.requests = before.requests
  notifications : after.notifications = before.notifications

/-! ## Counters -/

/-- The number of enumerations that have another name than before. -/
def renamedCount (before after : List Enumeration) : Nat :=
  (before.zip after).countP fun (old, new) => old.name != new.name

/-- The number of enumerations that the rules name after themselves. -/
def keptNameCount (rules : Rules) (enumerations : List Enumeration) : Nat :=
  enumerations.countP fun enumeration =>
    rules.enumRenames.get? enumeration.name == some enumeration.name

mutual

/-- The number of bases of an interface and of those inside it. -/
def baseCount : Interface -> Nat
  | ⟨_, _, bases, _, children, _, _, _⟩ => bases.length + baseCountOfAll children

/-- The number of bases of interfaces and of those inside them. -/
def baseCountOfAll : List Interface -> Nat
  | [] => 0
  | interface :: others => baseCount interface + baseCountOfAll others

end

/-- The number of names in the dependency sets of aliases and top-level interfaces. -/
def dependencyCount (aliases : List Alias) (interfaces : List Interface) : Nat :=
  ((aliases.map Alias.dependencies ++
    interfaces.map Interface.dependencies).flatMap NameSet.names).length

/-- What the counters of a report have to do with a model before and after a cleanup. -/
structure Counts (rules : Rules) (before after : Model) (report : Report) : Prop where
  deduplicated : report.deduplicatedEnumerations + after.enumerations.length =
    before.enumerations.length
  /-- Enumerations that keep their name because it is also their new one count as renamed. -/
  renamed : report.renamedEnumerations =
    renamedCount (firstOfEachName before.enumerations) after.enumerations +
      keptNameCount rules (firstOfEachName before.enumerations)
  removedInterfaces : report.removedInterfaces + after.interfaces.length =
    before.interfaces.length
  removedAliases : report.removedAliases + after.aliases.length = before.aliases.length
  droppedBases : report.droppedBases + baseCountOfAll after.interfaces =
    baseCountOfAll (survivingInterfaces rules before)
  prunedDependencies : report.prunedDependencies + dependencyCount after.aliases after.interfaces =
    dependencyCount (survivingAliases rules before after) (survivingInterfaces rules before)

/-! ## First enumerations -/

/-- A member stays if its key is neither seen before nor the key of a member before it. -/
theorem firstsAfter_eq_filter_zipIdx {α : Type} (key : α -> String) (seen : List String)
    (items : List α) :
    Name.firstsAfter key seen items =
      (items.zipIdx.filter fun (item, position) =>
        key item ∉ seen ∧ key item ∉ (items.take position).map key).map Prod.fst := by
  induction items generalizing seen with
  | nil => rfl
  | cons first others inductionHypothesis =>
      -- For the members behind the first one, its key is one more that is seen before.
      have behind : ((others.zipIdx 1).filter fun (item, position) =>
          key item ∉ seen ∧ key item ∉ ((first :: others).take position).map key).map Prod.fst =
          Name.firstsAfter key (key first :: seen) others := by
        rw [inductionHypothesis, List.zipIdx_succ, List.filter_map, List.map_map]
        congr 1
        apply List.filter_congr
        intro indexed _
        simp only [Function.comp_apply, List.take_succ_cons, List.map_cons, List.mem_cons,
          not_or, decide_eq_decide]
        tauto
      rw [List.zipIdx_cons, List.filter_cons]
      by_cases isSeen : key first ∈ seen
      · have sameSeen : Name.firstsAfter key (key first :: seen) others =
            Name.firstsAfter key seen others := by
          rw [inductionHypothesis, inductionHypothesis]
          congr 1
          apply List.filter_congr
          intro indexed _
          have absorbed : ∀ name, name ∈ key first :: seen ↔ name ∈ seen := by
            intro name
            rw [List.mem_cons]
            exact ⟨fun member => member.elim (fun same => same ▸ isSeen) id, .inr⟩
          simp only [absorbed]
        rw [Name.firstsAfter, if_pos isSeen, if_neg (by simp [isSeen]), behind, sameSeen]
      · rw [Name.firstsAfter, if_neg isSeen, if_pos (by simp [isSeen]), List.map_cons, behind]

/-- The enumerations that stay are the first ones of their names. -/
theorem firsts_eq_firstOfEachName (enumerations : List Enumeration) :
    Name.firsts Enumeration.name enumerations = firstOfEachName enumerations := by
  rw [Name.firsts, firstsAfter_eq_filter_zipIdx, firstOfEachName]
  simp only [List.not_mem_nil, not_false_eq_true, true_and]

/-! ## Changed entities -/

/-- Corresponding members of a list and of its image are related if each is to its image. -/
theorem forall₂_map_of_forall {α β : Type} {related : α -> β -> Prop} {function : α -> β}
    (items : List α) (each : ∀ item, related item (function item)) :
    List.Forall₂ related items (items.map function) := by
  rw [List.forall₂_map_right_iff]
  exact List.forall₂_same.mpr fun item _ => each item

/-- An enumeration changes in a cleanup as it may. -/
theorem enumerationChange_cleanEnumeration (rules : Rules) (enumeration : Enumeration) :
    EnumerationChange rules enumeration (cleanEnumeration rules enumeration) where
  name := rfl
  values := forall₂_map_of_forall enumeration.values fun _ => ⟨rfl, rfl, rfl⟩
  rest := rfl

mutual

/-- An interface is rebased by dropping the removed bases. -/
theorem rebased_dropBases (removed : NameSet) : (interface : Interface) ->
    Rebased removed interface (dropBases removed interface)
  | ⟨_, _, bases, _, children, _, _, _⟩ => by
      refine .intro ?_ (forall₂_rebased_dropBasesOfAll removed children) rfl
      exact List.filter_congr fun base _ => by simp [NameSet.contains, NameSet.mem_def]

/-- Interfaces are rebased one by one. -/
theorem forall₂_rebased_dropBasesOfAll (removed : NameSet) : (interfaces : List Interface) ->
    List.Forall₂ (Rebased removed) interfaces (dropBasesOfAll removed interfaces)
  | [] => .nil
  | interface :: others =>
      .cons (rebased_dropBases removed interface) (forall₂_rebased_dropBasesOfAll removed others)

end

/-- Only what is needed is left of a dependency set. -/
theorem pruned_filter_isNeeded (cleaned : Model) (names : NameSet) :
    Pruned cleaned names (names.filter (isNeeded cleaned)) := by
  intro name
  rw [NameSet.mem_filter, isNeeded_iff]

/-- An interface changes in a cleanup as it may. -/
theorem interfaceChange_cleanInterface (rules : Rules) (cleaned : Model)
    (interface : Interface) :
    InterfaceChange rules cleaned interface (cleanInterface rules cleaned interface) where
  dependencies := pruned_filter_isNeeded cleaned interface.dependencies
  rest := by
    have pruned := rebased_dropBases rules.removedInterfaces
      { interface with dependencies := interface.dependencies.filter (isNeeded cleaned) }
    cases interface
    exact pruned

/-- An alias changes in a cleanup as it may. -/
theorem aliasChange_cleanAlias (cleaned : Model) (entity : Alias) :
    AliasChange cleaned entity (cleanAlias cleaned entity) where
  dependencies := pruned_filter_isNeeded cleaned entity.dependencies
  rest := rfl

/-- The interfaces that are kept are those that survive. -/
theorem filter_keepsInterface (rules : Rules) (before : Model) :
    before.interfaces.filter (keepsInterface rules) = survivingInterfaces rules before :=
  List.filter_congr fun interface _ => by simp [keepsInterface, NameSet.contains, NameSet.mem_def]

/-- The aliases that are kept are those that survive. -/
theorem filter_keepsAlias (rules : Rules) (before after : Model) :
    before.aliases.filter (keepsAlias rules after) = survivingAliases rules before after :=
  List.filter_congr fun entity _ => by
    simp [keepsAlias, isRicher, NameSet.contains, NameSet.mem_def]

/-- A cleanup changes each surviving entity as it should, and nothing else. -/
theorem changes_clean (rules : Rules) (model : Model) :
    Changes rules model (clean rules model).model where
  enumerations := by
    rw [enumerations_clean, firsts_eq_firstOfEachName]
    exact forall₂_map_of_forall _ (enumerationChange_cleanEnumeration rules)
  interfaces := by
    rw [interfaces_clean, filter_keepsInterface]
    exact forall₂_map_of_forall _ (interfaceChange_cleanInterface rules _)
  aliases := by
    rw [aliases_clean, filter_keepsAlias]
    exact forall₂_map_of_forall _ (aliasChange_cleanAlias _)
  requests := rfl
  notifications := rfl

/-! ## Counted changes -/

/-- Each new name that the rules give an enumeration either differs from its old one or not. -/
theorem length_renames (rules : Rules) (model : Model) :
    (renames rules model).length =
      renamedCount model.enumerations (model.enumerations.map (cleanEnumeration rules)) +
        keptNameCount rules model.enumerations := by
  obtain ⟨enumerations, _, _, _, _⟩ := model
  simp only [renames, renamedCount, keptNameCount]
  induction enumerations with
  | nil => rfl
  | cons first others inductionHypothesis =>
      have newName : (cleanEnumeration rules first).name =
          (rules.enumRenames.get? first.name).getD first.name := rfl
      cases found : rules.enumRenames.get? first.name with
      | none => simp [found, newName, inductionHypothesis]
      | some name =>
          by_cases same : name = first.name
          · simp [found, newName, same, inductionHypothesis]
            omega
          · simp [found, newName, same, Ne.symm same, inductionHypothesis]
            omega

mutual

/-- Each base of an interface and of those inside it is dropped or stays. -/
theorem length_droppedBases_add_baseCount (removed : NameSet) : (interface : Interface) ->
    (droppedBases removed interface).length + baseCount (dropBases removed interface) =
      baseCount interface
  | ⟨_, _, bases, _, children, _, _, _⟩ => by
      have parted : (bases.filter removed.contains).length +
          (bases.filter fun base => !removed.contains base).length = bases.length :=
        (List.length_eq_length_filter_add removed.contains).symm
      have below := length_droppedBasesOfAll_add_baseCountOfAll removed children
      simp only [droppedBases, dropBases, baseCount, List.length_append, List.length_map]
      omega

/-- Each base of interfaces and of those inside them is dropped or stays. -/
theorem length_droppedBasesOfAll_add_baseCountOfAll (removed : NameSet) :
    (interfaces : List Interface) ->
    (droppedBasesOfAll removed interfaces).length +
        baseCountOfAll (dropBasesOfAll removed interfaces) =
      baseCountOfAll interfaces
  | [] => rfl
  | interface :: others => by
      have first := length_droppedBases_add_baseCount removed interface
      have rest := length_droppedBasesOfAll_add_baseCountOfAll removed others
      simp only [droppedBasesOfAll, dropBasesOfAll, baseCountOfAll, List.length_append]
      omega

end

/-- Each name in a dependency set is pruned or stays. -/
theorem length_prunedNames_add_dependencyCount (condition : String -> Bool) (model : Model) :
    (prunedNames condition model).length +
        dependencyCount (prune condition model).aliases (prune condition model).interfaces =
      dependencyCount model.aliases model.interfaces := by
  have prunedSets :
      (prune condition model).aliases.map Alias.dependencies ++
          (prune condition model).interfaces.map Interface.dependencies =
        (model.aliases.map Alias.dependencies ++
          model.interfaces.map Interface.dependencies).map (·.filter (!condition ·)) := by
    simp [prune, Function.comp_def]
  rw [prunedNames, dependencyCount, dependencyCount, prunedSets]
  induction model.aliases.map Alias.dependencies ++ model.interfaces.map Interface.dependencies with
  | nil => rfl
  | cons first others inductionHypothesis =>
      have parted : (first.names.filter condition).length +
          (first.filter (!condition ·)).names.length = first.names.length :=
        (List.length_eq_length_filter_add condition).symm
      simp only [List.map_cons, List.flatMap_cons, List.length_append]
      omega

/-- The stages before pruning leave the dependency sets of what survives. -/
theorem dependencyCount_selected (rules : Rules) (model : Model) :
    dependencyCount (selected rules model).aliases (selected rules model).interfaces =
      dependencyCount (survivingAliases rules model (clean rules model).model)
        (survivingInterfaces rules model) := by
  rw [aliases_selected, interfaces_selected, filter_keepsAlias, filter_keepsInterface,
    dependencyCount, dependencyCount, List.map_map]
  simp [Function.comp_def]

/-- Pruning changes no bases, at the top level or below it. -/
theorem baseCountOfAll_clean (rules : Rules) (model : Model) :
    baseCountOfAll (clean rules model).model.interfaces =
      baseCountOfAll (dropBasesOfAll rules.removedInterfaces
        (model.interfaces.filter (keepsInterface rules))) := by
  rw [interfaces_clean, dropBasesOfAll_eq_map]
  induction model.interfaces.filter (keepsInterface rules) with
  | nil => rfl
  | cons first others inductionHypothesis =>
      have sameBases : baseCount (cleanInterface rules (clean rules model).model first) =
          baseCount (dropBases rules.removedInterfaces first) := by
        cases first
        rfl
      rw [List.map_cons, List.map_cons, baseCountOfAll, baseCountOfAll, inductionHypothesis,
        sameBases]

/-- The report of a cleanup counts what the cleanup changes. -/
theorem counts_clean (rules : Rules) (model : Model) :
    Counts rules model (clean rules model).model (clean rules model).report where
  deduplicated := by
    have parted := Name.length_firsts_add_length_repeats Enumeration.name model.enumerations
    have counted : (clean rules model).report.deduplicatedEnumerations =
        model.enumerations.length - (Name.firsts Enumeration.name model.enumerations).length := rfl
    rw [counted, enumerations_clean, List.length_map]
    omega
  renamed := by
    rw [enumerations_clean, ← firsts_eq_firstOfEachName]
    exact length_renames rules (deduplicate model)
  removedInterfaces := by
    have atMost := List.length_filter_le (keepsInterface rules) model.interfaces
    have counted : (clean rules model).report.removedInterfaces =
        model.interfaces.length - (model.interfaces.filter (keepsInterface rules)).length := rfl
    rw [counted, interfaces_clean, List.length_map]
    omega
  removedAliases := by
    have atMost :=
      List.length_filter_le (keepsAlias rules (clean rules model).model) model.aliases
    have counted : (clean rules model).report.removedAliases =
        model.aliases.length - (selected rules model).aliases.length := rfl
    rw [counted, aliases_selected, aliases_clean, List.length_map]
    omega
  droppedBases := by
    have counted : (clean rules model).report.droppedBases =
        (droppedBasesOfAll rules.removedInterfaces
          (model.interfaces.filter (keepsInterface rules))).length := rfl
    rw [counted, baseCountOfAll_clean, filter_keepsInterface]
    exact length_droppedBasesOfAll_add_baseCountOfAll _ _
  prunedDependencies := by
    let selection := selected rules model
    -- The second pruning works on what the first one leaves, so no name is counted twice.
    have first := length_prunedNames_add_dependencyCount (namesEnumeration selection) selection
    have second := length_prunedNames_add_dependencyCount
      (isDangling (prune (namesEnumeration selection) selection))
      (prune (namesEnumeration selection) selection)
    have start := dependencyCount_selected rules model
    have counted : (clean rules model).report.prunedDependencies =
        (prunedNames (namesEnumeration selection) selection).length +
          (prunedNames (isDangling (prune (namesEnumeration selection) selection))
            (prune (namesEnumeration selection) selection)).length := rfl
    have result : (clean rules model).model =
        prune (isDangling (prune (namesEnumeration selection) selection))
          (prune (namesEnumeration selection) selection) := rfl
    rw [← start, ← first, ← second, counted, result]
    omega

/-- A cleanup changes what it should and nothing else, and its report counts the changes. -/
theorem cleanup_changes_what_it_counts (rules : Rules) (model : Model) :
    Changes rules model (clean rules model).model ∧
      Counts rules model (clean rules model).model (clean rules model).report :=
  ⟨changes_clean rules model, counts_clean rules model⟩

/-- An enumeration that the rules name after itself counts as renamed, though the cleanup
leaves the model as it is. -/
theorem kept_name_counts_as_renamed :
    let rules : Rules := { Rules.standard with enumRenames := ⟨[("A", "A")], by decide⟩ }
    let model : Model := { enumerations := [{ name := "A", kind := .string }] }
    let cleaned := clean rules model
    cleaned.model = model ∧
      cleaned.report.renamedEnumerations ≠
        renamedCount (firstOfEachName model.enumerations) cleaned.model.enumerations := by
  decide +kernel

end ProtocolHeaders.Cleanup
