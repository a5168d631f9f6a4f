import ProtocolHeaders.Proofs.Header.Placement

/-!
# Declarations as they are emitted

A header need not wait for the whole order. Each batch of nodes can be written as soon as the
resolver releases it, and a cycle that shows up later throws away what is written by then.
This comes to the same header, and what it declares behind the enumerations is the order
without the aliases that the target provides.
-/

namespace ProtocolHeaders.Header.Declarations

open ProtocolHeaders.Order (Cycle Resolver)

/-! ## Batches -/

/-- The lines of the nodes that a resolver releases, behind what is written already. Each
batch is written before the next one is released. -/
def writeBatches (options : Options) (index : UnionIndex) (written : String)
    (resolver : Resolver) : Except Cycle String :=
  match _stepped : resolver.next with
  | none => .ok written
  | some (.ok batch, rest) =>
      writeBatches options index (written ++ String.join (batch.map (nodeBlock options index))) rest
  | some (.error cycle, _) => .error cycle
termination_by resolver.stepsLeft
decreasing_by exact Resolver.stepsLeft_of_next _stepped

/-- Writing batch by batch is writing what the batches come to. -/
theorem writeBatches_eq_map_collect (options : Options) (index : UnionIndex) (written : String)
    (resolver : Resolver) :
    writeBatches options index written resolver =
      (Order.collect resolver.run).map fun nodes =>
        written ++ String.join (nodes.map (nodeBlock options index)) := by
  fun_induction writeBatches options index written resolver with
  | case1 written resolver finished =>
      rw [Resolver.run_of_next_eq_none finished]
      simp [Order.collect, Except.map]
  | case2 written resolver batch rest stepped inductionHypothesis =>
      rw [Resolver.run_of_next_eq_some stepped, Order.collect, inductionHypothesis]
      cases Order.collect rest.run with
      | error cycle => rfl
      | ok nodes =>
          simp only [Except.map, List.map_append, String.join_append, String.append_assoc]
  | case3 written resolver cycle rest stepped =>
      rw [Resolver.run_of_next_eq_some stepped]
      rfl

/-- A header is written batch by batch behind its enumerations. -/
theorem render_eq_map_writeBatches (options : Options) (model : Model) :
    render options model =
      (writeBatches options (.ofModel model)
        (String.join (model.enumerations.map enumerationBlock))
        (.ofNodes model.nodes)).map (source options includes) := by
  rw [render_eq_map_body, body_eq_map_order, writeBatches_eq_map_collect]
  rfl

/-! ## Declared nodes -/

/-- Whether a node is declared: it is a structure, or the target does not provide it. -/
def IsDeclared (options : Options) (node : Node) : Prop :=
  node.isInterface = true ∨ node.name ∉ options.builtinAliases

instance (options : Options) (node : Node) : Decidable (IsDeclared options node) :=
  inferInstanceAs (Decidable (_ ∨ _))

@[simp] theorem isDeclared_settled (options : Options) (node : Node) :
    IsDeclared options (Order.settled node) ↔ IsDeclared options node := by
  simp [IsDeclared]

/-- A node that is not declared leaves no text. -/
theorem eq_empty_of_isNodeText {options : Options} {index : UnionIndex} {node : Node}
    {text : String} (isText : IsNodeText options index node text)
    (undeclared : ¬ IsDeclared options node) : text = "" := by
  cases isText with
  | provided isProvided => rfl
  | literalAlias notProvided _ => exact absurd (.inr notProvided) undeclared
  | typeAlias notProvided _ => exact absurd (.inr notProvided) undeclared
  | interface _ _ _ => exact absurd (.inl rfl) undeclared

/-- A header shows the nodes of a model in an order, those left out that the target
provides. -/
structure ShowsInOrder (options : Options) (model : Model) (ordering : List Node)
    (header : String) : Prop where
  rearranged :
    ordering.Perm (model.aliases.map Node.typeAlias ++ model.interfaces.map Node.interface)
  isOrdering : Order.IsOrdering ordering
  shown : LaysOut options model (ordering.filter (IsDeclared options ·)) header

/-- A header that lays down all nodes in an order shows this order. -/
theorem showsInOrder_of_laysOut {options : Options} {model : Model} {ordering : List Node}
    {header : String} (rearranged : ordering.Perm model.nodes)
    (isOrdering : Order.IsOrdering ordering) (laysOut : LaysOut options model ordering header) :
    ShowsInOrder options model ordering header where
  rearranged := rearranged
  isOrdering := isOrdering
  shown := by
    obtain ⟨enumerations, blocks, eachEnumeration, eachNode, text⟩ := laysOut
    refine ⟨enumerations, blocks, eachEnumeration, eachNode.filter ?_, text⟩
    intro node block isText undeclared
    exact eq_empty_of_isNodeText isText (of_decide_eq_false undeclared)

/-- If an order is found, the header shows it. -/
theorem exists_showsInOrder (options : Options) {model : Model} {nodes : List Node}
    (found : Order.order model.nodes = .ok nodes) :
    ∃ ordering header, ShowsInOrder options model ordering header ∧
      nodes.map Node.name = ordering.map Node.name ∧ render options model = .ok header := by
  obtain ⟨ordering, header, rearranged, isOrdering, rfl, rendered, laysOut⟩ :=
    exists_laysOut_of_order_eq_ok options found
  exact ⟨ordering, header, showsInOrder_of_laysOut rearranged isOrdering laysOut,
    by simp [Function.comp_def], rendered⟩

end ProtocolHeaders.Header.Declarations
