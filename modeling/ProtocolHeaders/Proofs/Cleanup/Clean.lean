import ProtocolHeaders.Proofs.Cleanup.Survivors

/-!
# Clean models

A model is clean for some rules if it neither has nor extends what the rules remove, if no
alias competes with a richer entity, and if everything that its nodes depend on is declared
among the nodes. A cleanup makes every model clean. What it renames and removes on the way
does not matter: each property is about names in the model that comes out.
-/

namespace ProtocolHeaders.Cleanup

/-- The interfaces of a list and, at any depth, those inside them. -/
inductive IsWithin (interfaces : List Interface) : Interface -> Prop where
  | listed {interface} (member : interface ∈ interfaces) : IsWithin interfaces interface
  | inside {outer inner} (within : IsWithin interfaces outer) (isChild : inner ∈ outer.children) :
      IsWithin interfaces inner

/-- What generation relies on after a cleanup by some rules. -/
structure IsClean (rules : Rules) (model : Model) : Prop where
  /-- What an alias or a top-level interface depends on is one of these, and no enumeration. -/
  depends_on_nodes : ∀ node ∈ model.nodes, ∀ name ∈ node.dependencies,
    (name ∈ model.aliasNames ∨ name ∈ model.interfaceNames) ∧ name ∉ model.enumerationNames
  keeps_interfaces : ∀ name ∈ model.interfaceNames, name ∉ rules.removedInterfaces
  extends_kept : ∀ interface, IsWithin model.interfaces interface ->
    ∀ base ∈ interface.bases, base ∉ rules.removedInterfaces
  keeps_aliases : ∀ name ∈ model.aliasNames, name ∉ rules.removedAliases
  /-- No enumeration and no top-level interface has the name of an alias. -/
  aliases_apart : ∀ name ∈ model.aliasNames,
    name ∉ model.enumerationNames ∧ name ∉ model.interfaceNames

variable (rules : Rules) (model : Model)

theorem mem_aliasNames_clean {name : String}
    (member : name ∈ (clean rules model).model.aliasNames) :
    ∃ entity ∈ model.aliases, keepsAlias rules (clean rules model).model entity = true ∧
      entity.name = name := by
  rw [Model.aliasNames, aliases_clean] at member
  obtain ⟨cleaned, isCleaned, rfl⟩ := List.mem_map.mp member
  obtain ⟨entity, survives, rfl⟩ := List.mem_map.mp isCleaned
  obtain ⟨isEntity, keeps⟩ := List.mem_filter.mp survives
  exact ⟨entity, isEntity, keeps, rfl⟩

/-- A node of a cleaned model depends only on what is needed. -/
theorem depends_on_nodes_clean :
    ∀ node ∈ (clean rules model).model.nodes, ∀ name ∈ node.dependencies,
      (name ∈ (clean rules model).model.aliasNames ∨
          name ∈ (clean rules model).model.interfaceNames) ∧
        name ∉ (clean rules model).model.enumerationNames := by
  intro node member name depends
  rw [nodes_clean] at member
  obtain ⟨original, -, rfl⟩ := List.mem_map.mp member
  rw [dependencies_cleanNode, NameSet.mem_filter] at depends
  exact isNeeded_iff.mp depends.2

/-- At every depth of a cleaned model the removed interfaces are missing from the bases. The
induction carries along that the children were rebased like the interface around them. -/
theorem rebased_of_isWithin_clean {interface : Interface}
    (within : IsWithin (clean rules model).model.interfaces interface) :
    ∃ original : Interface,
      interface.bases = original.bases.filter (!rules.removedInterfaces.contains ·) ∧
      interface.children = original.children.map (dropBases rules.removedInterfaces) := by
  induction within with
  | listed member =>
      rw [interfaces_clean] at member
      obtain ⟨original, -, rfl⟩ := List.mem_map.mp member
      exact ⟨original, bases_dropBases _ original, children_dropBases _ original⟩
  | inside within isChild inductionHypothesis =>
      obtain ⟨outer, -, children⟩ := inductionHypothesis
      rw [children] at isChild
      obtain ⟨original, -, rfl⟩ := List.mem_map.mp isChild
      exact ⟨original, bases_dropBases _ original, children_dropBases _ original⟩

/-- A cleanup makes every model clean. -/
theorem isClean_clean : IsClean rules (clean rules model).model where
  depends_on_nodes := depends_on_nodes_clean rules model
  keeps_interfaces := by
    intro name member
    rw [Model.interfaceNames, interfaces_clean] at member
    obtain ⟨cleaned, isCleaned, rfl⟩ := List.mem_map.mp member
    obtain ⟨interface, survives, rfl⟩ := List.mem_map.mp isCleaned
    have keeps := (List.mem_filter.mp survives).2
    simpa [keepsInterface, cleanInterface] using keeps
  extends_kept := by
    intro interface within base isBase
    obtain ⟨original, bases, -⟩ := rebased_of_isWithin_clean rules model within
    rw [bases] at isBase
    simpa using (List.mem_filter.mp isBase).2
  keeps_aliases := by
    intro name member
    obtain ⟨entity, -, keeps, rfl⟩ := mem_aliasNames_clean rules model member
    rw [keepsAlias, Bool.and_eq_true] at keeps
    simpa using keeps.1
  aliases_apart := by
    intro name member
    obtain ⟨entity, -, keeps, rfl⟩ := mem_aliasNames_clean rules model member
    rw [keepsAlias, Bool.and_eq_true] at keeps
    simpa [isRicher] using keeps.2

end ProtocolHeaders.Cleanup
