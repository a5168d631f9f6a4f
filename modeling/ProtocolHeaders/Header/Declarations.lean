import ProtocolHeaders.Header.Field
import ProtocolHeaders.Order.Resolver

/-!
# The header of type declarations

Enumerations come first, in the order of the model. Aliases and structures follow in
dependency order, each once; nested structures stand inside the structure around them,
and what a nested structure extends does not show. An alias that the target provides is
not declared.
-/

namespace ProtocolHeaders.Header.Declarations

open Log (Event)

/-- The headers that declarations rely on. -/
def includes : List String :=
  ["<nlohmann/json.hpp>", "<cstddef>", "<memory>", "<optional>", "<string>", "<tuple>",
    "<unordered_map>", "<variant>", "<vector>"]

/-- The enumerator of a value. String values are sent by a table, so their enumerators
have no values of their own. -/
def enumeratorOf (isString : Bool) (value : EnumerationValue) : Enumerator :=
  { documentation := value.documentation, name := value.name
    value? := if isString then none else some value.value }

/-- The declaration of an enumeration. -/
def declareEnumeration (enumeration : Enumeration) : Declaration :=
  .enumeration enumeration.documentation enumeration.name
    (enumeration.values.map (enumeratorOf enumeration.isString))

/-- The type that an alias in its final form stands for. -/
def aliasTarget (type : TypeExpr) : String :=
  if type.kind = .literal then "std::string" else type.value

/-- Whether the target provides an alias. -/
def isBuiltin (options : Options) (entity : Alias) : Bool :=
  options.builtinAliases.contains entity.name

/-- The declaration of an alias. -/
def declareAlias (index : UnionIndex) (entity : Alias) : Declaration :=
  .typeAlias entity.documentation entity.name (aliasTarget (index.materialize entity.type))

mutual

/-- The structure inside another that a child of an interface becomes. -/
def nestedStruct (index : UnionIndex) : Interface -> Struct
  | ⟨name, documentation, _, properties, children, _, _, _⟩ =>
      { documentation
        name := Marker.strip name
        bases := []
        nested := nestedStructs index children
        fields := properties.map (fieldOf index (Marker.strip name)) }

/-- The structures inside another that children become. -/
def nestedStructs (index : UnionIndex) : List Interface -> List Struct
  | [] => []
  | child :: others => nestedStruct index child :: nestedStructs index others

end

/-- The structure that a top-level interface becomes. -/
def structOf (index : UnionIndex) (interface : Interface) : Struct :=
  { documentation := interface.documentation
    name := interface.name
    bases := interface.bases
    nested := nestedStructs index interface.children
    fields := interface.properties.map (fieldOf index interface.name) }

/-- The declaration of a node, unless the target provides it. -/
def declareNode? (options : Options) (index : UnionIndex) : Node -> Option Declaration
  | .typeAlias entity => if isBuiltin options entity then none else some (declareAlias index entity)
  | .interface entity => some (.struct (structOf index entity))

/-- The declarations of a model: enumerations, then nodes in dependency order. -/
def declarations (options : Options) (model : Model) : Except Order.Cycle (List Declaration) := do
  let nodes <- Order.order model.nodes
  return model.enumerations.map declareEnumeration ++
    nodes.filterMap (declareNode? options (.ofModel model))

/-- The lines of the declarations of a model. -/
def body (options : Options) (model : Model) : Except Order.Cycle String := do
  return String.join ((<- declarations options model).map Declaration.code)

/-- The header of type declarations. -/
def render (options : Options) (model : Model) : Except Order.Cycle String := do
  return source options includes (<- body options model)

/-- The nodes of a batch that are left out because the target provides them. -/
def skipEvents (options : Options) (batch : List Node) : List Event :=
  batch.filterMap fun
    | .typeAlias entity =>
        if isBuiltin options entity then some (.skippedAlias entity.name) else none
    | .interface _ => none

/-- What the declarations report: each batch with the aliases left out of it, and the
numbers of all entities unless the order fails. -/
def events (options : Options) (model : Model) : List Event :=
  let steps := (Order.Resolver.ofNodes model.nodes).run
  (steps.flatMap fun step =>
      Order.Resolver.stepEvent step ::
        (match step.1 with
          | .ok batch => skipEvents options batch
          | .error _ => [])) ++
    (match Order.collect steps with
      | .ok nodes => [.declared model.enumerations.length nodes.length]
      | .error _ => [])

end ProtocolHeaders.Header.Declarations
