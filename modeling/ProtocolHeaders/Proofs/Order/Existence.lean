import Mathlib.Data.List.Induction
import ProtocolHeaders.Proofs.Order.Resolution

/-!
# Orders are found exactly when there are some

An ordering lists nodes so that each stands behind the names it depends on. What the
resolver releases, batch after batch, is such an ordering. If nodes are left instead, no
ordering holds any of them: the first of them in an ordering would have only released
names before it, and so it would be free.
-/

namespace ProtocolHeaders.Order

/-- Every name that a node depends on, its own aside, is the name of a node before it. -/
def IsOrdering (nodes : List Node) : Prop :=
  ∀ before node after, nodes = before ++ node :: after ->
    ∀ name ∈ node.dependencies, name ≠ node.name -> ∃ earlier ∈ before, earlier.name = name

/-- Each node is free once given names and the names of the nodes before it are released. -/
def Follows (released : List String) : List Node -> Prop
  | [] => True
  | node :: others => IsFree released node ∧ Follows (released ++ [node.name]) others

/-- An order follows if its first part does, and its second behind it. -/
theorem follows_append {released : List String} {first second : List Node} :
    Follows released (first ++ second) ↔
      Follows released first ∧ Follows (released ++ first.map Node.name) second := by
  induction first generalizing released with
  | nil => simp [Follows]
  | cons node others inductionHypothesis =>
      simp [Follows, inductionHypothesis, and_assoc]

/-- Free nodes follow in any order. -/
theorem follows_of_forall_isFree {released : List String} {nodes : List Node}
    (free : ∀ node ∈ nodes, IsFree released node) : Follows released nodes := by
  induction nodes generalizing released with
  | nil => trivial
  | cons node others inductionHypothesis =>
      obtain ⟨nodeFree, othersFree⟩ := List.forall_mem_cons.mp free
      refine ⟨nodeFree, inductionHypothesis fun other member => ?_⟩
      exact (othersFree other member).mono (List.subset_append_left _ _)

/-- In an ordering each node is free once the names of the nodes before it are released. -/
theorem isOrdering_iff_follows {nodes : List Node} : IsOrdering nodes ↔ Follows [] nodes := by
  constructor
  · intro ordering
    induction nodes using List.reverseRecOn with
    | nil => trivial
    | append_singleton earlier last inductionHypothesis =>
        rw [follows_append]
        refine ⟨inductionHypothesis ?_, ?_, trivial⟩
        · rintro before node after rfl
          exact ordering before node (after ++ [last]) (by simp)
        · intro name depends differs
          simpa using ordering earlier last [] rfl name depends differs
  · rintro follows before node after rfl name depends differs
    obtain ⟨-, free, -⟩ := follows_append.mp follows
    simpa using free name depends differs

namespace Resolution

variable {released : List String} {waiting blocked : List Node} {batches : List (List Node)}

/-- A course neither loses nor repeats a node. -/
theorem perm (course : Resolution released waiting batches blocked) :
    (batches.flatten ++ blocked).Perm waiting := by
  induction course with
  | rest _ => exact .refl _
  | batch _ _ inductionHypothesis =>
      rw [List.flatten_cons, List.append_assoc]
      exact (inductionHypothesis.append_left _).trans (freeNodes_append_boundNodes _ _)

/-- Each released node stands behind the names it depends on. -/
theorem follows (course : Resolution released waiting batches blocked) :
    Follows released batches.flatten := by
  induction course with
  | rest _ => trivial
  | batch _ _ inductionHypothesis =>
      rw [List.flatten_cons, follows_append]
      refine ⟨follows_of_forall_isFree fun node member => ?_, inductionHypothesis⟩
      simpa using (List.mem_filter.mp member).2

/-- A node that is left depends on a name that no released node has. -/
theorem not_isFree_of_mem_blocked (course : Resolution released waiting batches blocked)
    {node : Node} (member : node ∈ blocked) :
    ¬ IsFree (released ++ batches.flatten.map Node.name) node := by
  induction course with
  | rest noneFree =>
      simpa [freeNodes] using List.filter_eq_nil_iff.mp noneFree node member
  | batch _ _ inductionHypothesis =>
      simpa [List.append_assoc] using inductionHypothesis member

/-- No ordering holds a node that is left. The induction is on the ordering from its
end: the nodes before the last one are all released, so the last one is free. -/
theorem notMem_blocked_of_follows (course : Resolution released waiting batches blocked)
    {ordering : List Node} (subset : ordering ⊆ waiting) (follows : Follows released ordering) :
    ∀ node ∈ ordering, node ∉ blocked := by
  induction ordering using List.reverseRecOn with
  | nil => simp
  | append_singleton earlier last inductionHypothesis =>
      obtain ⟨earlierSubset, lastSubset⟩ := List.append_subset.mp subset
      obtain ⟨earlierFollows, lastFree, -⟩ := follows_append.mp follows
      have earlierReleased := inductionHypothesis earlierSubset earlierFollows
      have namesReleased : earlier.map Node.name ⊆ batches.flatten.map Node.name := by
        refine List.map_subset _ fun node member => ?_
        have known : node ∈ batches.flatten ++ blocked :=
          course.perm.mem_iff.mpr (earlierSubset member)
        exact (List.mem_append.mp known).resolve_right (earlierReleased node member)
      rintro node member
      rcases List.mem_append.mp member with isEarlier | isLast
      · exact earlierReleased node isEarlier
      · obtain rfl := List.mem_singleton.mp isLast
        intro left
        exact course.not_isFree_of_mem_blocked left
          (lastFree.mono (List.append_subset.mpr ⟨List.subset_append_left _ _,
            List.subset_append_of_subset_right _ namesReleased⟩))

end Resolution

/-- An order that is found lists the nodes as an ordering does, each with an empty
dependency set. -/
theorem exists_ordering_of_order_eq_ok {nodes ordered : List Node}
    (found : order nodes = .ok ordered) :
    ∃ ordering : List Node, ordering.Perm nodes ∧ IsOrdering ordering ∧
      ordered = ordering.map settled := by
  obtain ⟨arranged, batches, blocked, permuted, course, outcomeIs⟩ := order_eq_outcome nodes
  rw [found, outcome] at outcomeIs
  split at outcomeIs
  · rename_i noneLeft
    subst noneLeft
    cases outcomeIs
    refine ⟨batches.flatten, ?_, isOrdering_iff_follows.mpr course.follows, rfl⟩
    simpa using course.perm.trans permuted
  · cases outcomeIs

/-- An order that is found is one. -/
theorem exists_order_of_isOk {nodes : List Node} (succeeds : (order nodes).isOk = true) :
    ∃ ordered, order nodes = .ok ordered := by
  cases found : order nodes with
  | error cycle =>
      rw [found] at succeeds
      cases succeeds
  | ok ordered => exact ⟨ordered, rfl⟩

/-- If there is an ordering, the resolver finds an order. -/
theorem exists_order_of_isOrdering {nodes ordering : List Node} (permuted : ordering.Perm nodes)
    (isOrdering : IsOrdering ordering) : ∃ ordered, order nodes = .ok ordered := by
  obtain ⟨arranged, batches, blocked, arrangement, course, outcomeIs⟩ := order_eq_outcome nodes
  have all : ordering.Perm arranged := permuted.trans arrangement.symm
  have released : ∀ node ∈ ordering, node ∉ blocked :=
    course.notMem_blocked_of_follows all.subset (isOrdering_iff_follows.mp isOrdering)
  have noneLeft : blocked = [] := by
    refine List.eq_nil_iff_forall_not_mem.mpr fun node left => ?_
    have known : node ∈ arranged := course.perm.subset (List.mem_append_right _ left)
    exact released node (all.mem_iff.mpr known) left
  exact ⟨batches.flatten.map settled, by rw [outcomeIs, outcome, if_pos noneLeft]⟩

/-- The resolver finds an order exactly when the nodes have an ordering, and what it finds
is one: the nodes as they were, but for their dependency sets, which are empty. -/
theorem order_finds_ordering (nodes : List Node) :
    ((∃ ordered, order nodes = .ok ordered) ↔
        ∃ ordering : List Node, ordering.Perm nodes ∧ IsOrdering ordering) ∧
      ∀ ordered, order nodes = .ok ordered ->
        ∃ ordering : List Node, ordering.Perm nodes ∧ IsOrdering ordering ∧
          ordered = ordering.map settled := by
  refine ⟨⟨?_, ?_⟩, fun ordered found => exists_ordering_of_order_eq_ok found⟩
  · rintro ⟨ordered, found⟩
    obtain ⟨ordering, permuted, isOrdering, -⟩ := exists_ordering_of_order_eq_ok found
    exact ⟨ordering, permuted, isOrdering⟩
  · rintro ⟨ordering, permuted, isOrdering⟩
    exact exists_order_of_isOrdering permuted isOrdering

/-- Two nodes of one name, one of which depends on that name and on a later node, are put
behind that node. -/
theorem order_finds_ordering_of_namesakes :
    let nodes : List Node :=
      [.interface { name := "B", dependencies := .ofList ["A", "B"] },
        .typeAlias { name := "A", type := .base "int" }, .interface { name := "B" }]
    ∃ ordered ordering : List Node, order nodes = .ok ordered ∧ ordering.Perm nodes ∧
      IsOrdering ordering ∧ ordered = ordering.map settled := by
  intro nodes
  have found : order nodes =
      .ok [.typeAlias { name := "A", type := .base "int" }, .interface { name := "B" },
        .interface { name := "B" }] := by decide +kernel
  obtain ⟨ordering, permuted, isOrdering, ordered⟩ := (order_finds_ordering nodes).2 _ found
  exact ⟨_, ordering, found, permuted, isOrdering, ordered⟩

end ProtocolHeaders.Order
