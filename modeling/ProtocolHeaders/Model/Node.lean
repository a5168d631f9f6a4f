import ProtocolHeaders.Model.Basic

/-!
# Nodes of the declaration order

Aliases and interfaces are declared in an order that respects their dependencies.
A node is either of them, seen by its name and its dependency set.
-/

namespace ProtocolHeaders

/-- An entity that takes part in the declaration order. -/
inductive Node where
  | typeAlias (entity : Alias)
  | interface (entity : Interface)
deriving Repr, DecidableEq, Inhabited

namespace Node

/-- The name that dependencies refer to. -/
def name : Node -> String
  | typeAlias entity => entity.name
  | interface entity => entity.name

/-- The documentation of the entity. -/
def documentation : Node -> String
  | typeAlias entity => entity.documentation
  | interface entity => entity.documentation

/-- The names that have to be declared before the node. -/
def dependencies : Node -> NameSet
  | typeAlias entity => entity.dependencies
  | interface entity => entity.dependencies

/-- The node with another dependency set and nothing else changed. -/
def withDependencies (names : NameSet) : Node -> Node
  | typeAlias entity => typeAlias { entity with dependencies := names }
  | interface entity => interface { entity with dependencies := names }

/-- Whether the node is a structure rather than an alias. -/
def isInterface : Node -> Bool
  | typeAlias _ => false
  | interface _ => true

instance : Dated Node where
  since
    | typeAlias entity => entity.since
    | interface entity => entity.since
  deprecated
    | typeAlias entity => entity.deprecated
    | interface entity => entity.deprecated

@[simp] theorem name_withDependencies (names : NameSet) (node : Node) :
    (node.withDependencies names).name = node.name := by
  cases node <;> rfl

@[simp] theorem isInterface_withDependencies (names : NameSet) (node : Node) :
    (node.withDependencies names).isInterface = node.isInterface := by
  cases node <;> rfl

@[simp] theorem dependencies_withDependencies (names : NameSet) (node : Node) :
    (node.withDependencies names).dependencies = names := by
  cases node <;> rfl

@[simp] theorem withDependencies_withDependencies (first second : NameSet) (node : Node) :
    (node.withDependencies first).withDependencies second = node.withDependencies second := by
  cases node <;> rfl

@[simp] theorem withDependencies_dependencies (node : Node) :
    node.withDependencies node.dependencies = node := by
  cases node with
  | typeAlias entity => rfl
  | interface entity =>
      cases entity
      rfl

end Node

/-- The nodes of a model: its aliases, then its interfaces. -/
def Model.nodes (model : Model) : List Node :=
  model.aliases.map Node.typeAlias ++ model.interfaces.map Node.interface

end ProtocolHeaders
