import ProtocolHeaders.Log.Event
import ProtocolHeaders.Model.Node

/-!
# The declaration order

Nodes are released in batches. A node is ready when nothing is left in its
dependency set; all ready nodes are released together, in their relative order, and
their names leave the sets of the nodes that wait. If nodes wait and none is ready,
the resolver is stuck and says which names each of them waits for.
-/

namespace ProtocolHeaders.Order

open Log (Event)

/-- A node that cannot be released, with the names it waits for. -/
structure Blocked where
  name : String
  waitingOn : NameSet
deriving Repr, DecidableEq

/-- Why there is no order: the nodes that wait, sorted by name. -/
structure Cycle where
  blocked : List Blocked
deriving Repr, DecidableEq

/-- The text shown for a node that waits. -/
def Blocked.message (node : Blocked) : String :=
  node.name ++ " -> [" ++ String.intercalate ", " node.waitingOn.names ++ "]"

/-- The text shown for a cycle. -/
def Cycle.message (cycle : Cycle) : String :=
  "cyclic dependency between " ++ String.intercalate "; " (cycle.blocked.map Blocked.message)

/-! ## Preordering -/

/-- Put a node at the end of a list that is given last node first, but before the
nodes at its end that depend on it. -/
def insertBack (node : Node) : (lastFirst : List Node) -> List Node
  | [] => [node]
  | last :: earlier =>
      if last.dependencies.contains node.name then last :: insertBack node earlier
      else node :: last :: earlier

/-- The nodes in their order, except that a node moves in front of the nodes directly
before it that depend on it. -/
def preorder (nodes : List Node) : List Node :=
  (nodes.foldl (fun lastFirst node => insertBack node lastFirst) []).reverse

/-! ## Releasing -/

/-- A node without its own name among its dependencies. -/
def withoutSelf (node : Node) : Node :=
  node.withDependencies (node.dependencies.erase node.name)

/-- Whether a node has nothing to wait for. -/
def isReady (node : Node) : Bool :=
  node.dependencies.isEmpty

/-- A node that no longer waits for some names. -/
def release (names : List String) (node : Node) : Node :=
  node.withDependencies (node.dependencies.filter (!names.contains ·))

/-- The nodes that wait, and whether they are known to be stuck. -/
structure Resolver where
  waiting : List Node
  stuck : Bool := false
deriving Repr, DecidableEq

namespace Resolver

/-- The resolver of a list of nodes. -/
def ofNodes (nodes : List Node) : Resolver :=
  { waiting := preorder (nodes.map withoutSelf) }

/-- The number of nodes that wait. -/
def remaining (resolver : Resolver) : Nat :=
  resolver.waiting.length

/-- The nodes that wait, by name, with what they wait for. -/
def blocked (resolver : Resolver) : List Blocked :=
  (resolver.waiting.map fun node => ⟨node.name, node.dependencies⟩).mergeSort
    fun left right => left.name <= right.name

/-- A batch of nodes, or the cycle that ends the resolution. -/
abbrev Step := Except Cycle (List Node)

/-- The next step and the resolver after it. -/
def next (resolver : Resolver) : Option (Step × Resolver) :=
  if resolver.stuck || resolver.waiting.isEmpty then none
  else
    let ready := resolver.waiting.filter isReady
    if ready.isEmpty then
      some (.error ⟨resolver.blocked⟩, { resolver with stuck := true })
    else
      let rest := resolver.waiting.filter (!isReady ·)
      some (.ok ready, { resolver with waiting := rest.map (release (ready.map Node.name)) })

/-- A bound on the number of steps that are left. -/
def stepsLeft (resolver : Resolver) : Nat :=
  if resolver.stuck then 0 else resolver.waiting.length + 1

/-- Fewer nodes wait if some are ready. -/
theorem length_unready_lt {nodes : List Node} (someReady : nodes.filter isReady ≠ []) :
    (nodes.filter (!isReady ·)).length < nodes.length := by
  obtain ⟨node, member⟩ := List.exists_mem_of_ne_nil _ someReady
  obtain ⟨waits, ready⟩ := List.mem_filter.mp member
  exact List.length_filter_lt_length_iff_exists.mpr ⟨node, waits, by simp [ready]⟩

/-- A step leaves fewer steps. -/
theorem stepsLeft_of_next {resolver after : Resolver} {step : Step}
    (stepped : resolver.next = some (step, after)) : after.stepsLeft < resolver.stepsLeft := by
  simp only [next] at stepped
  split at stepped
  · cases stepped
  · rename_i active
    obtain ⟨unstuck, -⟩ : resolver.stuck = false ∧ resolver.waiting.isEmpty = false := by
      simpa using active
    split at stepped
    · cases stepped
      simp only [stepsLeft, unstuck, if_true, Bool.false_eq_true, if_false]
      exact Nat.succ_pos _
    · rename_i someReady
      cases stepped
      have shorter : (resolver.waiting.filter (!isReady ·)).length < resolver.waiting.length :=
        length_unready_lt (by simpa using someReady)
      simp only [stepsLeft, unstuck, Bool.false_eq_true, if_false, List.length_map]
      exact Nat.succ_lt_succ shorter

/-- All steps, each with the resolver after it. -/
def run (resolver : Resolver) : List (Step × Resolver) :=
  match _stepped : resolver.next with
  | none => []
  | some (step, after) => (step, after) :: after.run
termination_by resolver.stepsLeft
decreasing_by exact stepsLeft_of_next _stepped

/-- What a step reports. -/
def stepEvent (step : Step × Resolver) : Event :=
  match step.1 with
  | .ok batch => .releasedBatch batch.length step.2.remaining
  | .error cycle => .dependencyCycle cycle.blocked.length

end Resolver

/-- The batches of a run put together, or the cycle that ended it. -/
def collect : List (Resolver.Step × Resolver) -> Except Cycle (List Node)
  | [] => .ok []
  | (.ok batch, _) :: others => (collect others).map (batch ++ ·)
  | (.error cycle, _) :: _ => .error cycle

/-- The nodes in an order in which each follows the nodes it depends on. -/
def order (nodes : List Node) : Except Cycle (List Node) :=
  collect (Resolver.ofNodes nodes).run

/-- What finding the order reports. -/
def events (nodes : List Node) : List Event :=
  (Resolver.ofNodes nodes).run.map Resolver.stepEvent

end ProtocolHeaders.Order
