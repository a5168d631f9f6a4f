import ProtocolHeaders.Proofs.Cleanup.Survivors
import ProtocolHeaders.Proofs.Header.DeclarationTexts
import ProtocolHeaders.Proofs.Order.Existence

/-!
# Where declarations stand

The header of a cleaned model has the blocks of the enumerations first. The blocks of the
other entities that survive the cleanup follow, each once, and each behind the blocks of
the entities that it depended on in the model as it was before: a cleanup only takes
dependencies away that no surviving entity but an enumeration answers to.
-/

namespace ProtocolHeaders.Header.Declarations

open Cleanup (cleanNode keepsNode)

/-- The block of an enumeration. -/
def enumerationBlock (enumeration : Enumeration) : String :=
  (declareEnumeration enumeration).code

/-- The block of a node. A node that the target provides has an empty one. -/
def nodeBlock (options : Options) (index : UnionIndex) (node : Node) : String :=
  match declareNode? options index node with
  | some declaration => declaration.code
  | none => ""

/-- The block of a node is the text that is laid down for it. -/
theorem isNodeText_nodeBlock (options : Options) (index : UnionIndex) (node : Node) :
    IsNodeText options index node (nodeBlock options index node) := by
  cases node with
  | interface entity => exact isNodeText_structOf entity
  | typeAlias entity =>
      by_cases provided : entity.name ∈ options.builtinAliases
      · have noBlock : nodeBlock options index (.typeAlias entity) = "" := by
          simp [nodeBlock, declareNode?, isBuiltin, provided]
        rw [noBlock]
        exact .provided provided
      · have block : nodeBlock options index (.typeAlias entity) =
            (declareAlias index entity).code := by
          simp [nodeBlock, declareNode?, isBuiltin, provided]
        rw [block]
        exact isNodeText_declareAlias provided

/-- What a node waits for does not show in its block. -/
theorem nodeBlock_settled (options : Options) (index : UnionIndex) (node : Node) :
    nodeBlock options index (Order.settled node) = nodeBlock options index node := by
  cases node <;> rfl

/-- The declarations of nodes are written block by block. -/
theorem join_declared (options : Options) (index : UnionIndex) (nodes : List Node) :
    String.join ((nodes.filterMap (declareNode? options index)).map Declaration.code) =
      String.join (nodes.map (nodeBlock options index)) := by
  induction nodes with
  | nil => rfl
  | cons node others inductionHypothesis =>
      rw [List.filterMap_cons, List.map_cons, String.join_cons, nodeBlock]
      cases declareNode? options index node with
      | none => rw [inductionHypothesis, String.empty_append]
      | some declaration => rw [List.map_cons, String.join_cons, inductionHypothesis]

/-- A body has the blocks of the enumerations, then those of the nodes in the order that is
found; without an order there is no body. -/
theorem body_eq_map_order (options : Options) (model : Model) :
    body options model = (Order.order model.nodes).map fun nodes =>
      String.join (model.enumerations.map enumerationBlock) ++
        String.join (nodes.map (nodeBlock options (.ofModel model))) := by
  cases found : Order.order model.nodes with
  | error cycle =>
      rw [body, declarations, found]
      rfl
  | ok nodes =>
      rw [body, declarations, found]
      change Except.ok _ = Except.ok _
      rw [List.map_append, String.join_append, List.map_map, join_declared]
      rfl

/-- A header is declared if there is an order of the nodes. -/
theorem exists_declarations_of_isOk (options : Options) {model : Model}
    (succeeds : (Order.order model.nodes).isOk = true) :
    ∃ declared, declarations options model = .ok declared := by
  obtain ⟨nodes, found⟩ := Order.exists_order_of_isOk succeeds
  rw [declarations, found]
  exact ⟨_, rfl⟩

/-- A header fails as its body does. -/
theorem render_eq_map_body (options : Options) (model : Model) :
    render options model = (body options model).map (source options includes) := by
  rw [render]
  cases body options model with
  | error cycle => rfl
  | ok text => rfl

/-- If an order is found, the header lays the nodes down in it. -/
theorem exists_laysOut_of_order_eq_ok (options : Options) {model : Model} {nodes : List Node}
    (found : Order.order model.nodes = .ok nodes) :
    ∃ ordering header, ordering.Perm model.nodes ∧ Order.IsOrdering ordering ∧
      nodes = ordering.map Order.settled ∧ render options model = .ok header ∧
      LaysOut options model ordering header := by
  obtain ⟨ordering, permuted, isOrdering, rfl⟩ := Order.exists_ordering_of_order_eq_ok found
  have blocks : (ordering.map Order.settled).map (nodeBlock options (.ofModel model)) =
      ordering.map (nodeBlock options (.ofModel model)) := by
    rw [List.map_map]
    exact List.map_congr_left fun node _ => nodeBlock_settled options _ node
  refine ⟨ordering, _, permuted, isOrdering, rfl, ?_, _, _,
    isSequence_join isEnumerationText_code model.enumerations,
    isSequence_join (isNodeText_nodeBlock options _) ordering, isTidyOf_tidy _⟩
  rw [render_eq_map_body, body_eq_map_order, found, ← source_append, ← blocks]
  rfl

/-- A header that is rendered lays the nodes down in some order. -/
theorem exists_laysOut_of_render_eq_ok {options : Options} {model : Model} {header : String}
    (rendered : render options model = .ok header) :
    ∃ ordering : List Node, ordering.Perm model.nodes ∧ Order.IsOrdering ordering ∧
      LaysOut options model ordering header := by
  cases found : Order.order model.nodes with
  | error cycle =>
      rw [render_eq_map_body, body_eq_map_order, found] at rendered
      cases rendered
  | ok nodes =>
      obtain ⟨ordering, _, permuted, isOrdering, -, renders, laysOut⟩ :=
        exists_laysOut_of_order_eq_ok options found
      rw [renders] at rendered
      obtain rfl := Except.ok.inj rendered
      exact ⟨ordering, permuted, isOrdering, laysOut⟩

/-- In the header of a cleaned model the blocks of the enumerations come first, in order. Behind
them stand the blocks of the nodes that survive the cleanup, each once, and each behind a block
for every name that the node depended on before, as long as that name is needed. An alias that
the target provides has an empty block, and any other node one with its comment, its name and
what it is declared as. -/
theorem cleaned_header_places_dependencies_first (options : Options) (rules : Cleanup.Rules)
    (model : Model) (header : String)
    (rendered : render options (Cleanup.clean rules model).model = .ok header) :
    let cleaned := (Cleanup.clean rules model).model
    let survivors :=
      (model.aliases.map Node.typeAlias ++ model.interfaces.map Node.interface).filter
        (keepsNode rules cleaned)
    cleaned.aliases.map Node.typeAlias ++ cleaned.interfaces.map Node.interface =
        survivors.map (cleanNode rules cleaned) ∧
      ∃ placed : List Node, placed.Perm survivors ∧
        LaysOut options cleaned (placed.map (cleanNode rules cleaned)) header ∧
        ∀ before node after, placed = before ++ node :: after ->
          ∀ name ∈ node.dependencies, name ≠ node.name ->
            (name ∈ cleaned.aliasNames ∨ name ∈ cleaned.interfaceNames) ->
            name ∉ cleaned.enumerationNames -> ∃ earlier ∈ before, earlier.name = name := by
  intro cleaned survivors
  have nodesAre : cleaned.nodes = survivors.map (cleanNode rules cleaned) :=
    Cleanup.nodes_clean rules model
  obtain ⟨ordering, permuted, isOrdering, laysOut⟩ := exists_laysOut_of_render_eq_ok rendered
  rw [nodesAre] at permuted
  obtain ⟨placed, rearranged, rfl⟩ := Order.exists_perm_of_perm_map permuted
  refine ⟨nodesAre, placed, rearranged, laysOut, ?_⟩
  rintro before node after rfl name depends differs named noEnumeration
  have needed : Cleanup.isNeeded cleaned name = true :=
    Cleanup.isNeeded_iff.mpr ⟨named, noEnumeration⟩
  have stillDepends : name ∈ (cleanNode rules cleaned node).dependencies := by
    simp [depends, needed]
  obtain ⟨earlier, isBefore, earlierName⟩ :=
    isOrdering (before.map (cleanNode rules cleaned)) (cleanNode rules cleaned node)
      (after.map (cleanNode rules cleaned)) (by simp) name stillDepends (by simpa using differs)
  obtain ⟨original, originalBefore, rfl⟩ := List.mem_map.mp isBefore
  exact ⟨original, originalBefore, by simpa using earlierName⟩

/-- A model whose nodes are out of order, repeat names, and depend on themselves, on an
enumeration, on a removed entity and on one that does not exist. -/
def scatteredModel : Model :=
  { enumerations := [{ name := "Kind", kind := .string }]
    aliases :=
      [{ name := "Anchor", type := .reference "Range"
         dependencies := .ofList ["Anchor", "Gone", "Kind", "LSPAny", "Range"] },
        { name := "Kind", type := .base "int" }, { name := "LSPAny", type := .base "json" },
        { name := "integer", type := .base "int" }]
    interfaces :=
      [{ name := "Range", bases := ["Message"]
         dependencies := .ofList ["Message", "Position", "Range"] },
        { name := "Position", dependencies := .ofList ["integer"] }, { name := "Message" },
        { name := "Position" }] }

/-- The scattered model has a header, and nothing that depends on ranges is placed before
they are. -/
theorem scattered_header_places_ranges_first :
    let cleaned := (Cleanup.clean .standard scatteredModel).model
    ∃ header, render {} cleaned = .ok header ∧
      ∃ placed : List Node,
        placed.Perm (scatteredModel.nodes.filter (keepsNode .standard cleaned)) ∧
        LaysOut {} cleaned (placed.map (cleanNode .standard cleaned)) header ∧
        ∀ before node after, placed = before ++ node :: after ->
          "Range" ∈ node.dependencies -> "Range" ≠ node.name ->
            ∃ earlier ∈ before, earlier.name = "Range" := by
  intro cleaned
  obtain ⟨nodes, found⟩ : ∃ nodes, Order.order cleaned.nodes = .ok nodes :=
    Order.exists_order_of_isOk (by decide +kernel)
  obtain ⟨header, rendered⟩ : ∃ header, render {} cleaned = .ok header := by
    rw [render_eq_map_body, body_eq_map_order, found]
    exact ⟨_, rfl⟩
  obtain ⟨-, placed, permuted, laysOut, behind⟩ :=
    cleaned_header_places_dependencies_first {} .standard scatteredModel header rendered
  refine ⟨header, rendered, placed, permuted, laysOut, fun before node after parts depends =>
    fun differs => ?_⟩
  exact behind before node after parts "Range" depends differs (.inr (by decide +kernel))
    (by decide +kernel)

end ProtocolHeaders.Header.Declarations
