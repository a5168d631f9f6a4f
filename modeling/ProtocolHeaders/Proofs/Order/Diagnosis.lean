import Mathlib.Data.Set.Finite.Basic
import Mathlib.Dynamics.PeriodicPts.Defs
import ProtocolHeaders.Proofs.Cleanup.Clean
import ProtocolHeaders.Proofs.Order.Existence

/-!
# What a stuck resolver says

A resolver that is stuck lists the nodes that it did not release, by name, each with what it
waits for. The list is exact: no ordering of any of the nodes holds one that is listed, and
every other one was released in such an ordering. If all that nodes depend on is among them,
as in a cleaned model, then each listed node waits for a listed one. Following these from name
to name must come back to a name, so some of the listed nodes wait for each other in a ring.
-/

namespace ProtocolHeaders.Order

/-! ## Released nodes -/

/-- The nodes that the steps of a run release, in order. -/
def Resolver.released (steps : List (Step × Resolver)) : List Node :=
  steps.flatMap fun step =>
    match step.1 with
    | .ok batch => batch
    | .error _ => []

/-- A resolver releases the batches of its course. -/
theorem Resolver.released_run {released : List String} {waiting blocked : List Node}
    {batches : List (List Node)} (course : Resolution released waiting batches blocked) :
    Resolver.released (Resolver.after released waiting).run = batches.flatten.map settled := by
  induction course with
  | @rest released blocked noneFree =>
      by_cases noneWait : blocked = []
      · subst noneWait
        rw [Resolver.run_of_next_eq_none rfl]
        rfl
      · rw [Resolver.run_of_next_eq_some (Resolver.next_after_of_stuck noneWait noneFree),
          Resolver.run_of_next_eq_none (by simp [next])]
        rfl
  | @batch released waiting batches blocked someFree others inductionHypothesis =>
      rw [Resolver.run_of_next_eq_some (Resolver.next_after_of_free someFree),
        List.flatten_cons, List.map_append, ← inductionHypothesis]
      rfl

/-- The nodes that are left are exactly those that no ordering of some of the nodes holds. -/
theorem Resolution.mem_blocked_iff {waiting blocked : List Node} {batches : List (List Node)}
    (course : Resolution [] waiting batches blocked) {node : Node} (member : node ∈ waiting) :
    node ∈ blocked ↔
      ¬ ∃ ordering : List Node, ordering.Subperm waiting ∧ IsOrdering ordering ∧
        node ∈ ordering := by
  constructor
  · rintro left ⟨ordering, subset, isOrdering, isOrdered⟩
    exact course.notMem_blocked_of_follows subset.subset (isOrdering_iff_follows.mp isOrdering)
      node isOrdered left
  · intro neverOrdered
    have known : node ∈ batches.flatten ++ blocked := course.perm.mem_iff.mpr member
    rcases List.mem_append.mp known with released | left
    · have subset : batches.flatten.Subperm waiting :=
        (List.sublist_append_left _ _).subperm.trans course.perm.subperm
      exact absurd ⟨_, subset, isOrdering_iff_follows.mpr course.follows, released⟩ neverOrdered
    · exact left

/-! ## Listed nodes -/

/-- An entry lists a node that was left once others were released: it names the node and
holds what the node depends on but its own name and theirs, which is not nothing. -/
structure Lists (released : List Node) (node : Node) (entry : Blocked) : Prop where
  name : entry.name = node.name
  waits : ∀ name, name ∈ entry.waitingOn ↔
    name ∈ node.dependencies ∧ name ≠ node.name ∧ ∀ other ∈ released, other.name ≠ name
  notFree : ∃ name, name ∈ entry.waitingOn

/-- The entry of a node that is held once names are released. -/
def entryOf (released : List String) (node : Node) : Blocked :=
  ⟨(holding released node).name, (holding released node).dependencies⟩

/-- The entry of a node that is left lists it. -/
theorem Resolution.lists_entryOf {waiting blocked : List Node} {batches : List (List Node)}
    (course : Resolution [] waiting batches blocked) {node : Node} (left : node ∈ blocked) :
    Lists batches.flatten node (entryOf (batches.flatten.map Node.name) node) where
  name := name_holding _ node
  waits name := by
    rw [entryOf, mem_dependencies_holding, List.mem_map]
    simp only [not_exists, not_and, ne_eq]
  notFree := by
    have bound := course.not_isFree_of_mem_blocked left
    simp only [IsFree, List.nil_append, not_forall] at bound
    obtain ⟨name, depends, differs, unreleased⟩ := bound
    exact ⟨name, mem_dependencies_holding.mpr ⟨depends, differs, unreleased⟩⟩

/-- What a resolver lists are the entries of its waiting nodes in some arrangement. -/
theorem exists_perm_of_blocked (released : List String) (waiting : List Node) :
    ∃ arranged : List Node, arranged.Perm waiting ∧
      (Resolver.after released waiting).blocked = arranged.map (entryOf released) := by
  apply exists_perm_of_perm_map
  have entries : ((Resolver.after released waiting).waiting.map fun node =>
      Blocked.mk node.name node.dependencies) = waiting.map (entryOf released) := by
    rw [Resolver.after, List.map_map]
    rfl
  rw [Resolver.blocked, entries]
  exact List.mergeSort_perm _ _

/-- What a resolver lists is sorted by name. -/
theorem pairwise_blocked (resolver : Resolver) :
    resolver.blocked.Pairwise fun left right => left.name ≤ right.name := by
  rw [Resolver.blocked]
  refine (List.pairwise_mergeSort ?_ ?_ _).imp of_decide_eq_true
  · intro first second third below above
    exact decide_eq_true (String.le_trans (of_decide_eq_true below) (of_decide_eq_true above))
  · intro first second
    simpa using String.le_total first.name second.name

/-! ## Rings -/

/-- Stepping through finitely many items comes back to where it was. -/
theorem exists_mem_periodicPts {α : Type} [Finite α] (step : α -> α) (first : α) :
    ∃ item, item ∈ Function.periodicPts step := by
  have meets := not_injective_infinite_finite fun count => step^[count] first
  obtain ⟨earlier, later, same, before⟩ : ∃ earlier later,
      step^[earlier] first = step^[later] first ∧ earlier < later := by
    simp only [Function.Injective, not_forall] at meets
    obtain ⟨one, other, same, differ⟩ := meets
    rcases Nat.lt_or_gt_of_ne differ with before | after
    · exact ⟨one, other, same, before⟩
    · exact ⟨other, one, same.symm, after⟩
  refine ⟨step^[earlier] first, Function.mk_mem_periodicPts (Nat.sub_pos_of_lt before) ?_⟩
  change step^[later - earlier] (step^[earlier] first) = step^[earlier] first
  rw [← Function.iterate_add_apply, Nat.sub_add_cancel before.le, same]

/-- Where each of finitely many items is followed by one of them, some of them follow each
other in a ring. -/
theorem exists_ring_of_forall_followed {α : Type} {items : List α} {follows : α -> α -> Prop}
    (someItem : items ≠ []) (followed : ∀ item ∈ items, ∃ next ∈ items, follows item next) :
    ∃ ring : List α, ring ≠ [] ∧ ring.Nodup ∧ (ring ++ ring.take 1).IsChain follows := by
  obtain ⟨first, isItem⟩ := List.exists_mem_of_ne_nil items someItem
  choose next nextIsItem nextFollows using followed
  let step : {item // item ∈ items} -> {item // item ∈ items} :=
    fun item => ⟨next item.1 item.2, nextIsItem item.1 item.2⟩
  have finite : Finite {item // item ∈ items} := items.finite_toSet.to_subtype
  obtain ⟨start, returns⟩ := exists_mem_periodicPts step ⟨first, isItem⟩
  have closed := (Function.periodicOrbit_chain' (fun item next => follows item.1 next.1)
    returns).mpr fun count => by
      rw [Function.iterate_succ_apply']
      exact nextFollows _ _
  have distinct := Function.nodup_periodicOrbit (f := step) (x := start)
  have visited := Function.self_mem_periodicOrbit returns
  rw [Function.periodicOrbit] at closed distinct visited
  generalize (List.range (Function.minimalPeriod step start)).map (fun count => step^[count] start)
    = orbit at closed distinct visited
  cases orbit with
  | nil => cases visited
  | cons item others =>
      rw [Cycle.chain_coe_cons] at closed
      rw [Cycle.nodup_coe_iff] at distinct
      refine ⟨(item :: others).map Subtype.val, by simp, ?_, ?_⟩
      · exact distinct.map Subtype.val_injective
      · rw [← List.map_take, ← List.map_append, List.isChain_map]
        exact closed

/-- An entry for a name waits for another name. -/
def WaitsFor (listed : List Blocked) (name next : String) : Prop :=
  ∃ entry ∈ listed, entry.name = name ∧ next ∈ entry.waitingOn

/-- Different names that wait for each other in a ring: each for the next one, and the last
for the first. -/
structure IsRing (listed : List Blocked) (names : List String) : Prop where
  several : 2 ≤ names.length
  distinct : names.Nodup
  waits : (names ++ names.take 1).IsChain (WaitsFor listed)

/-- Everything that nodes depend on is the name of one of them. -/
def DependsWithin (nodes : List Node) : Prop :=
  ∀ node ∈ nodes, ∀ name ∈ node.dependencies, ∃ other ∈ nodes, other.name = name

/-- If everything that nodes depend on is among them, some that are left wait in a ring. -/
theorem exists_isRing {nodes released stuck : List Node} {entry : Node -> Blocked}
    (all : (released ++ stuck).Perm nodes) (someStuck : stuck ≠ [])
    (lists : ∀ node ∈ stuck, Lists released node (entry node))
    (within : DependsWithin nodes) : ∃ names, IsRing (stuck.map entry) names := by
  have followed : ∀ name ∈ stuck.map Node.name, ∃ next ∈ stuck.map Node.name,
      WaitsFor (stuck.map entry) name next := by
    intro name isName
    obtain ⟨node, isStuck, rfl⟩ := List.mem_map.mp isName
    obtain ⟨next, isAwaited⟩ := (lists node isStuck).notFree
    obtain ⟨depends, -, unreleased⟩ := ((lists node isStuck).waits next).mp isAwaited
    have isNode : node ∈ nodes := all.subset (List.mem_append_right _ isStuck)
    obtain ⟨other, isOther, rfl⟩ := within node isNode next depends
    have otherStuck : other ∈ stuck :=
      (List.mem_append.mp (all.mem_iff.mpr isOther)).resolve_left
        fun isReleased => unreleased other isReleased rfl
    exact ⟨other.name, List.mem_map_of_mem otherStuck, entry node, List.mem_map_of_mem isStuck,
      (lists node isStuck).name, isAwaited⟩
  have neverItself : ∀ name, ¬ WaitsFor (stuck.map entry) name name := by
    rintro name ⟨listed, isListed, rfl, isAwaited⟩
    obtain ⟨node, isStuck, rfl⟩ := List.mem_map.mp isListed
    exact (((lists node isStuck).waits _).mp isAwaited).2.1 (lists node isStuck).name
  obtain ⟨ring, nonempty, distinct, closed⟩ :=
    exists_ring_of_forall_followed (by simpa using someStuck) followed
  refine ⟨ring, ?_, distinct, closed⟩
  match ring with
  | [] => exact absurd rfl nonempty
  | [name] => exact absurd (List.isChain_pair.mp closed) (neverItself name)
  | _ :: _ :: _ => simp

/-- What the nodes of a cleaned model depend on is among them. -/
theorem dependsWithin_nodes_clean (rules : Cleanup.Rules) (model : Model) :
    DependsWithin (Cleanup.clean rules model).model.nodes := by
  intro node member name depends
  obtain ⟨declared, -⟩ := Cleanup.depends_on_nodes_clean rules model node member name depends
  rcases declared with isAlias | isInterface
  · obtain ⟨entity, isEntity, rfl⟩ := List.mem_map.mp isAlias
    exact ⟨.typeAlias entity, List.mem_append_left _ (List.mem_map_of_mem isEntity), rfl⟩
  · obtain ⟨interface, isEntity, rfl⟩ := List.mem_map.mp isInterface
    exact ⟨.interface interface, List.mem_append_right _ (List.mem_map_of_mem isEntity), rfl⟩

/-- When no order is found, the nodes that were not released are listed, sorted by name, each
with what it still waits for. They are exactly the nodes that no ordering of some of the nodes
holds. If everything that the nodes depend on is among them, which a cleanup sees to, some of
the listed nodes wait for each other in a ring. -/
theorem cycle_lists_unorderable_nodes (nodes : List Node) (cycle : Cycle)
    (failed : order nodes = .error cycle) :
    (∃ released stuck : List Node,
      (released ++ stuck).Perm nodes ∧
        Resolver.released (Resolver.ofNodes nodes).run = released.map settled ∧
        List.Forall₂ (Lists released) stuck cycle.blocked ∧
        ∀ node ∈ nodes, node ∈ stuck ↔
          ¬ ∃ ordering : List Node, ordering.Subperm nodes ∧ IsOrdering ordering ∧
            node ∈ ordering) ∧
      cycle.blocked.Pairwise (fun left right => left.name ≤ right.name) ∧
      (DependsWithin nodes -> ∃ names, IsRing cycle.blocked names) ∧
      ∀ rules model, DependsWithin (Cleanup.clean rules model).model.nodes := by
  obtain ⟨arranged, batches, left, arrangement, course, starts⟩ := exists_course nodes
  rw [order, starts, collect_run course, outcome] at failed
  split at failed
  · cases failed
  rename_i someLeft
  cases failed
  rw [List.nil_append]
  obtain ⟨stuck, permuted, entries⟩ :=
    exists_perm_of_blocked (batches.flatten.map Node.name) left
  have all : (batches.flatten ++ stuck).Perm nodes :=
    ((permuted.append_left _).trans course.perm).trans arrangement
  have lists : ∀ node ∈ stuck,
      Lists batches.flatten node (entryOf (batches.flatten.map Node.name) node) :=
    fun node isStuck => course.lists_entryOf (permuted.subset isStuck)
  refine ⟨⟨batches.flatten, stuck, all, ?_, ?_, ?_⟩, pairwise_blocked _, ?_,
    dependsWithin_nodes_clean⟩
  · rw [starts, Resolver.released_run course]
  · rw [entries, List.forall₂_map_right_iff]
    exact List.forall₂_same.mpr lists
  · intro node member
    rw [permuted.mem_iff, course.mem_blocked_iff (arrangement.mem_iff.mpr member)]
    simp only [arrangement.subperm_left]
  · rw [entries]
    refine exists_isRing all ?_ lists
    rintro rfl
    exact someLeft permuted.symm.eq_nil

/-- A model with two structures that depend on each other, and with two aliases of one name,
one of which depends on them. -/
def tangledModel : Model :=
  { aliases :=
      [{ name := "Path", type := .reference "Node", dependencies := .ofList ["Node"] },
        { name := "Path", type := .reference "Text", dependencies := .ofList ["Text"] },
        { name := "Text", type := .base "std::string" }]
    interfaces :=
      [{ name := "Tree", dependencies := .ofList ["Node", "Text", "Tree"] },
        { name := "Node", dependencies := .ofList ["LSPObject", "Tree"] }] }

/-- The tangled model has no order, and structures in it wait for each other in a ring. -/
theorem tangled_nodes_wait_in_ring :
    let nodes := (Cleanup.clean .standard tangledModel).model.nodes
    ∃ cycle, order nodes = .error cycle ∧ ∃ names, IsRing cycle.blocked names := by
  intro nodes
  have fails : (order nodes).isOk = false := by decide +kernel
  cases found : order nodes with
  | ok ordered =>
      rw [found] at fails
      cases fails
  | error cycle =>
      obtain ⟨-, -, ring, within⟩ := cycle_lists_unorderable_nodes nodes cycle found
      exact ⟨cycle, rfl, ring (within .standard tangledModel)⟩

end ProtocolHeaders.Order
