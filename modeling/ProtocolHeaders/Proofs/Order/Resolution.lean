import Mathlib.Data.List.Perm.Basic
import ProtocolHeaders.Order.Resolver

/-!
# The course of a resolution

A resolver forgets: every name that it releases leaves the dependency sets of the nodes
that wait. Here the nodes stay as they were given and the released names stand beside
them, so that a node waits for the names it depends on that are neither its own nor
released. `Resolution` is the course of a whole run in these terms, and `collect_run`
shows that it is the one that the resolver takes.
-/

namespace ProtocolHeaders.Order

/-- A node is free once every name it depends on, its own aside, is released. -/
def IsFree (released : List String) (node : Node) : Prop :=
  ∀ name ∈ node.dependencies, name ≠ node.name -> name ∈ released

instance (released : List String) (node : Node) : Decidable (IsFree released node) :=
  inferInstanceAs
    (Decidable (∀ name ∈ node.dependencies.names, name ≠ node.name -> name ∈ released))

/-- A node stays free when more is released. -/
theorem IsFree.mono {fewer more : List String} {node : Node} (free : IsFree fewer node)
    (subset : fewer ⊆ more) : IsFree more node :=
  fun name depends differs => subset (free name depends differs)

/-- The nodes that are free once names are released. -/
def freeNodes (released : List String) (nodes : List Node) : List Node :=
  nodes.filter fun node => IsFree released node

/-- The nodes that are not free yet. -/
def boundNodes (released : List String) (nodes : List Node) : List Node :=
  nodes.filter fun node => !decide (IsFree released node)

/-- Every node is either free or not. -/
theorem freeNodes_append_boundNodes (released : List String) (nodes : List Node) :
    (freeNodes released nodes ++ boundNodes released nodes).Perm nodes :=
  List.filter_append_perm _ nodes

/-- Fewer nodes are bound if some are free. -/
theorem length_boundNodes_lt {released : List String} {nodes : List Node}
    (someFree : freeNodes released nodes ≠ []) :
    (boundNodes released nodes).length < nodes.length := by
  have together := (freeNodes_append_boundNodes released nodes).length_eq
  have positive := List.length_pos_iff.mpr someFree
  rw [List.length_append] at together
  omega

/-! ## States of the resolver -/

/-- A node as the resolver holds it once names are released. -/
def holding (released : List String) (node : Node) : Node :=
  node.withDependencies
    (node.dependencies.filter fun name => name != node.name && !released.contains name)

/-- A node as the resolver hands it out, with nothing left to wait for. -/
def settled (node : Node) : Node :=
  node.withDependencies .empty

@[simp] theorem name_holding (released : List String) (node : Node) :
    (holding released node).name = node.name := by
  simp [holding]

@[simp] theorem name_settled (node : Node) : (settled node).name = node.name := by
  simp [settled]

@[simp] theorem isInterface_settled (node : Node) :
    (settled node).isInterface = node.isInterface := by
  simp [settled]

/-- What a node still waits for: its dependencies but its own name and the released ones. -/
theorem mem_dependencies_holding {released : List String} {node : Node} {name : String} :
    name ∈ (holding released node).dependencies ↔
      name ∈ node.dependencies ∧ name ≠ node.name ∧ name ∉ released := by
  simp [holding]

/-- Before anything is released a node is held without its dependency on itself. -/
theorem withoutSelf_eq_holding (node : Node) : withoutSelf node = holding [] node := by
  simp [withoutSelf, holding, NameSet.erase]

/-- Releasing names adds them to the ones that are released already. -/
theorem release_holding (names released : List String) (node : Node) :
    release names (holding released node) = holding (released ++ names) node := by
  have same : (holding released node).dependencies.filter (!names.contains ·) =
      (holding (released ++ names) node).dependencies := by
    apply NameSet.eq_of_mem_iff
    intro name
    simp only [NameSet.mem_filter, mem_dependencies_holding, List.mem_append, not_or,
      Bool.not_eq_true', List.contains_eq_mem, decide_eq_false_iff_not]
    tauto
  rw [release, same]
  simp [holding]

/-- A set is empty if it has no names. -/
theorem isEmpty_iff {names : NameSet} : names.isEmpty = true ↔ ∀ name, name ∉ names := by
  simp [NameSet.isEmpty, NameSet.mem_def, List.eq_nil_iff_forall_not_mem]

/-- A node is ready when what it stands for is free. -/
theorem isReady_holding (released : List String) (node : Node) :
    isReady (holding released node) = decide (IsFree released node) := by
  rw [Bool.eq_iff_iff, isReady, isEmpty_iff, decide_eq_true_iff]
  simp only [mem_dependencies_holding, not_and, not_not, IsFree]

/-- A node that is free waits for nothing. -/
theorem holding_of_isFree {released : List String} {node : Node} (free : IsFree released node) :
    holding released node = settled node := by
  have nothing : (holding released node).dependencies = .empty := by
    apply NameSet.eq_of_mem_iff
    intro name
    simp only [mem_dependencies_holding]
    constructor
    · rintro ⟨depends, differs, unreleased⟩
      exact absurd (free name depends differs) unreleased
    · intro member
      cases member
  rw [settled, ← nothing]
  simp [holding]

namespace Resolver

/-- The resolver that is left with waiting nodes once names are released. -/
def after (released : List String) (waiting : List Node) : Resolver :=
  { waiting := waiting.map (holding released) }

/-- The nodes that are ready after a release are the free ones, settled. -/
theorem filter_isReady_after (released : List String) (waiting : List Node) :
    (after released waiting).waiting.filter isReady =
      (freeNodes released waiting).map settled := by
  have freeSettled : ∀ node ∈ freeNodes released waiting, holding released node = settled node := by
    intro node member
    exact holding_of_isFree (by simpa using (List.mem_filter.mp member).2)
  rw [← List.map_congr_left freeSettled, after, List.filter_map, freeNodes]
  congr 1
  exact List.filter_congr fun node _ => isReady_holding released node

/-- The nodes that wait on after a release are the bound ones. -/
theorem filter_not_isReady_after (released : List String) (waiting : List Node) :
    (after released waiting).waiting.filter (!isReady ·) =
      (boundNodes released waiting).map (holding released) := by
  rw [after, List.filter_map, boundNodes]
  congr 1
  exact List.filter_congr fun node _ => by simp [isReady_holding]

/-- While some node is free, all free nodes are released and their names with them. -/
theorem next_after_of_free {released : List String} {waiting : List Node}
    (someFree : freeNodes released waiting ≠ []) :
    (after released waiting).next =
      some (.ok ((freeNodes released waiting).map settled),
        after (released ++ (freeNodes released waiting).map Node.name)
          (boundNodes released waiting)) := by
  have someWait : waiting ≠ [] := by
    rintro rfl
    exact someFree rfl
  have active : ((after released waiting).stuck || (after released waiting).waiting.isEmpty) =
      false := by
    simp [after, someWait]
  have ready : ((freeNodes released waiting).map settled).isEmpty = false := by
    simp [someFree]
  simp only [next, active, filter_isReady_after, filter_not_isReady_after, ready,
    Bool.false_eq_true, if_false, List.map_map, Function.comp_def, name_settled, release_holding]
  rfl

/-- If nodes wait and none is free, the resolver is stuck. -/
theorem next_after_of_stuck {released : List String} {waiting : List Node}
    (someWait : waiting ≠ []) (noneFree : freeNodes released waiting = []) :
    (after released waiting).next =
      some (.error ⟨(after released waiting).blocked⟩,
        { after released waiting with stuck := true }) := by
  have active : ((after released waiting).stuck || (after released waiting).waiting.isEmpty) =
      false := by
    simp [after, someWait]
  simp only [next, active, filter_isReady_after, noneFree, Bool.false_eq_true, if_false,
    List.map_nil, List.isEmpty_nil, if_true]

/-- A resolver that is finished takes no steps. -/
theorem run_of_next_eq_none {resolver : Resolver} (finished : resolver.next = none) :
    resolver.run = [] := by
  rw [run]
  split
  · rfl
  · rename_i step rest stepped
    rw [finished] at stepped
    cases stepped

/-- A step is followed by those of the resolver behind it. -/
theorem run_of_next_eq_some {resolver rest : Resolver} {step : Step}
    (stepped : resolver.next = some (step, rest)) :
    resolver.run = (step, rest) :: rest.run := by
  rw [run]
  split
  · rename_i finished
    rw [finished] at stepped
    cases stepped
  · rename_i step' rest' stepped'
    rw [stepped] at stepped'
    cases stepped'
    rfl

end Resolver

/-! ## The whole course -/

/-- The course of a resolution from released names and waiting nodes: the batches that are
released one after the other, and the nodes that are left without any of them free. -/
inductive Resolution : List String -> List Node -> List (List Node) -> List Node -> Prop where
  | rest {released blocked} (noneFree : freeNodes released blocked = []) :
      Resolution released blocked [] blocked
  | batch {released waiting batches blocked} (someFree : freeNodes released waiting ≠ [])
      (others : Resolution (released ++ (freeNodes released waiting).map Node.name)
        (boundNodes released waiting) batches blocked) :
      Resolution released waiting (freeNodes released waiting :: batches) blocked

/-- Every resolution takes some course. -/
theorem exists_resolution (released : List String) (waiting : List Node) :
    ∃ batches blocked, Resolution released waiting batches blocked := by
  by_cases noneFree : freeNodes released waiting = []
  · exact ⟨[], waiting, .rest noneFree⟩
  · have shorter := length_boundNodes_lt noneFree
    obtain ⟨batches, blocked, others⟩ := exists_resolution
      (released ++ (freeNodes released waiting).map Node.name) (boundNodes released waiting)
    exact ⟨_, blocked, .batch noneFree others⟩
termination_by waiting.length

/-- What a course comes to: all batches put together if no node is left, or the nodes that
are left with what they wait for. -/
def outcome (released : List String) (batches : List (List Node)) (blocked : List Node) :
    Except Cycle (List Node) :=
  if blocked = [] then .ok (batches.flatten.map settled)
  else
    .error ⟨(Resolver.after (released ++ batches.flatten.map Node.name) blocked).blocked⟩

/-- The resolver takes the course that the released names determine. -/
theorem collect_run {released : List String} {waiting blocked : List Node}
    {batches : List (List Node)} (course : Resolution released waiting batches blocked) :
    collect (Resolver.after released waiting).run = outcome released batches blocked := by
  induction course with
  | @rest released blocked noneFree =>
      by_cases noneWait : blocked = []
      · subst noneWait
        rw [Resolver.run_of_next_eq_none rfl]
        rfl
      · rw [Resolver.run_of_next_eq_some (Resolver.next_after_of_stuck noneWait noneFree)]
        simp [collect, outcome, noneWait]
  | @batch released waiting batches blocked someFree others inductionHypothesis =>
      rw [Resolver.run_of_next_eq_some (Resolver.next_after_of_free someFree), collect,
        inductionHypothesis]
      by_cases noneWait : blocked = []
      · simp [outcome, noneWait, Except.map]
      · simp [outcome, noneWait, Except.map]

/-! ## Preordering -/

/-- Moving a node back loses none and adds none. -/
theorem insertBack_perm (node : Node) (lastFirst : List Node) :
    (insertBack node lastFirst).Perm (node :: lastFirst) := by
  induction lastFirst with
  | nil => exact .refl _
  | cons last earlier inductionHypothesis =>
      rw [insertBack]
      split
      · exact (inductionHypothesis.cons last).trans (.swap node last earlier)
      · exact .refl _

/-- Preordering only rearranges nodes. -/
theorem preorder_perm (nodes : List Node) : (preorder nodes).Perm nodes := by
  have inserted : ∀ lastFirst,
      (nodes.foldl (fun lastFirst node => insertBack node lastFirst) lastFirst).Perm
        (nodes.reverse ++ lastFirst) := by
    induction nodes with
    | nil => exact fun lastFirst => .refl _
    | cons node others inductionHypothesis =>
        intro lastFirst
        rw [List.foldl_cons, List.reverse_cons, List.append_assoc]
        exact (inductionHypothesis (insertBack node lastFirst)).trans
          ((insertBack_perm node lastFirst).append_left _)
  refine (List.reverse_perm _).trans ((inserted []).trans ?_)
  rw [List.append_nil]
  exact List.reverse_perm nodes

/-- A permutation of images is the image of a permutation. -/
theorem exists_perm_of_perm_map {α β : Type} {function : α -> β} {images : List β}
    {items : List α} (permuted : images.Perm (items.map function)) :
    ∃ arranged : List α, arranged.Perm items ∧ images = arranged.map function := by
  have related : List.Forall₂ (fun image item => image = function item) (items.map function)
      items := by
    rw [List.forall₂_map_left_iff]
    exact List.forall₂_same.mpr fun item _ => rfl
  obtain ⟨arranged, images, permuted⟩ := List.perm_comp_forall₂ permuted related
  refine ⟨arranged, permuted, ?_⟩
  rw [← List.forall₂_eq_eq_eq, List.forall₂_map_right_iff]
  exact images

/-- The resolver of a list of nodes starts with the nodes in some arrangement and nothing
released. -/
theorem exists_course (nodes : List Node) :
    ∃ arranged batches blocked, arranged.Perm nodes ∧ Resolution [] arranged batches blocked ∧
      Resolver.ofNodes nodes = Resolver.after [] arranged := by
  obtain ⟨arranged, permuted, waiting⟩ :=
    exists_perm_of_perm_map (preorder_perm (nodes.map (holding [])))
  obtain ⟨batches, blocked, course⟩ := exists_resolution [] arranged
  refine ⟨arranged, batches, blocked, permuted, course, ?_⟩
  rw [Resolver.ofNodes, Resolver.after, ← waiting]
  simp only [funext withoutSelf_eq_holding]

/-- An order is found by the course that starts with the nodes in some arrangement and
nothing released. -/
theorem order_eq_outcome (nodes : List Node) :
    ∃ arranged batches blocked, arranged.Perm nodes ∧ Resolution [] arranged batches blocked ∧
      order nodes = outcome [] batches blocked := by
  obtain ⟨arranged, batches, blocked, permuted, course, starts⟩ := exists_course nodes
  refine ⟨arranged, batches, blocked, permuted, course, ?_⟩
  rw [← collect_run course, order, starts]

end ProtocolHeaders.Order
