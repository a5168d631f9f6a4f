import ProtocolHeaders.Proofs.Order.Diagnosis

/-!
# What the arrangement of nodes decides

A batch lists its nodes as they stand among those that wait, and nothing else depends on
where they stand. So resolvers that hold the same nodes in different places release the same
nodes step by step, and they end in the same cycle. Preordering does not even show within a
batch: it moves a node only in front of nodes that depend on it, and of two nodes that are
ready none depends on the other. Both are shown by following two resolvers side by side: what
one step keeps (`IsSimulation`), their runs keep to the end.
-/

namespace ProtocolHeaders.Order

namespace Resolver

/-- What a resolver yields: its batches, and the cycle that ends them if it gets stuck. -/
def steps (resolver : Resolver) : List Step :=
  resolver.run.map Prod.fst

/-- The resolver of a list of nodes that are not preordered. -/
def inGivenOrder (nodes : List Node) : Resolver :=
  { waiting := nodes.map withoutSelf }

/-- The nodes that are ready. -/
def ready (waiting : List Node) : List Node :=
  waiting.filter isReady

/-- The nodes that wait once those that are ready are released. -/
def leftover (waiting : List Node) : List Node :=
  (waiting.filter (!isReady ·)).map (release ((ready waiting).map Node.name))

/-- There is nothing to do if no node waits. -/
theorem steps_of_nil : steps { waiting := [] } = [] := by
  rw [steps, run_of_next_eq_none rfl]
  rfl

/-- The ready nodes make up the first batch, and what is left over goes on. -/
theorem steps_of_ready {waiting : List Node} (someReady : ready waiting ≠ []) :
    steps { waiting } = .ok (ready waiting) :: steps { waiting := leftover waiting } := by
  have someWait : waiting ≠ [] := by
    rintro rfl
    exact someReady rfl
  have stepped : next { waiting } =
      some (.ok (ready waiting), { waiting := leftover waiting }) := by
    simp only [ready] at someReady
    simp [next, someWait, someReady, ready, leftover]
  rw [steps, run_of_next_eq_some stepped]
  rfl

/-- If nodes wait and none is ready, the only step is a cycle. -/
theorem steps_of_stuck {waiting : List Node} (someWait : waiting ≠ [])
    (noneReady : ready waiting = []) :
    steps { waiting } = [.error ⟨blocked { waiting }⟩] := by
  have stepped : next { waiting } =
      some (.error ⟨blocked { waiting }⟩, { waiting, stuck := true }) := by
    rw [ready] at noneReady
    simp [next, someWait, noneReady]
  rw [steps, run_of_next_eq_some stepped, run_of_next_eq_none (by simp [next])]
  rfl

/-- Fewer nodes are left over if some are ready. -/
theorem length_leftover_lt {waiting : List Node} (someReady : ready waiting ≠ []) :
    (leftover waiting).length < waiting.length := by
  rw [leftover, List.length_map]
  exact length_unready_lt someReady

/-- The nodes that are left over are those that are not ready. -/
theorem map_name_leftover (waiting : List Node) :
    (leftover waiting).map Node.name = (waiting.filter (!isReady ·)).map Node.name := by
  simp [leftover, release, Function.comp_def]

/-- Nodes that are left keep their names. -/
theorem nodup_map_name_leftover {waiting : List Node} (distinct : (waiting.map Node.name).Nodup) :
    ((leftover waiting).map Node.name).Nodup := by
  rw [map_name_leftover]
  exact distinct.sublist (List.filter_sublist.map _)

/-- Of nodes with distinct names a stuck resolver says the same wherever they stand. -/
theorem blocked_eq_of_perm {first second : List Node} (permuted : first.Perm second)
    (distinct : (first.map Node.name).Nodup) :
    blocked { waiting := first } = blocked { waiting := second } := by
  have listed : ∀ {waiting : List Node}, (blocked { waiting }).Perm
      (waiting.map fun node => ⟨node.name, node.dependencies⟩) :=
    List.mergeSort_perm _ _
  refine List.Perm.eq_of_pairwise ?_ (pairwise_blocked _) (pairwise_blocked _)
    (listed.trans ((permuted.map _).trans listed.symm))
  intro left right isLeft isRight below above
  obtain ⟨node, member, rfl⟩ := List.mem_map.mp (listed.subset isLeft)
  obtain ⟨other, isOther, rfl⟩ := List.mem_map.mp (listed.subset isRight)
  obtain rfl := List.inj_on_of_nodup_map distinct member (permuted.mem_iff.mpr isOther)
    (String.le_antisymm below above)
  rfl

end Resolver

open Resolver (Step ready leftover steps)

/-! ## Runs side by side -/

/-- Steps that release the same batch, in some sense of the same, or end in the same cycle. -/
inductive Matches (same : List Node -> List Node -> Prop) : Step -> Step -> Prop where
  | batch {left right : List Node} (isSame : same left right) : Matches same (.ok left) (.ok right)
  | cycle (cycle : Cycle) : Matches same (.error cycle) (.error cycle)

/-- A relation between nodes that wait which lasts from step to step while the same batches
are released. -/
structure IsSimulation (alike same : List Node -> List Node -> Prop) : Prop where
  perm : ∀ {first second}, alike first second -> first.Perm second
  distinct : ∀ {first second}, alike first second -> (first.map Node.name).Nodup
  batch : ∀ {first second}, alike first second -> same (ready first) (ready second)
  lasts : ∀ {first second}, alike first second -> alike (leftover first) (leftover second)

/-- Rearranging the nodes rearranges those that are ready. -/
theorem perm_ready {first second : List Node} (permuted : first.Perm second) :
    (ready first).Perm (ready second) :=
  permuted.filter _

/-- Resolvers whose nodes are alike take matching steps to the end. -/
theorem IsSimulation.matches_steps {alike same : List Node -> List Node -> Prop}
    (simulation : IsSimulation alike same) {first second : List Node}
    (related : alike first second) :
    List.Forall₂ (Matches same) (steps { waiting := first }) (steps { waiting := second }) := by
  have permuted := simulation.perm related
  by_cases noneWait : first = []
  · subst noneWait
    obtain rfl := permuted.nil_eq
    rw [Resolver.steps_of_nil]
    exact .nil
  by_cases noneReady : ready first = []
  · have otherWait : second ≠ [] := fun none => noneWait (none ▸ permuted).eq_nil
    have otherReady : ready second = [] := (noneReady ▸ perm_ready permuted).nil_eq.symm
    rw [Resolver.steps_of_stuck noneWait noneReady, Resolver.steps_of_stuck otherWait otherReady,
      Resolver.blocked_eq_of_perm permuted (simulation.distinct related)]
    exact .cons (.cycle _) .nil
  · have otherReady : ready second ≠ [] := fun none =>
      noneReady (none ▸ perm_ready permuted).eq_nil
    have shorter := Resolver.length_leftover_lt noneReady
    rw [Resolver.steps_of_ready noneReady, Resolver.steps_of_ready otherReady]
    exact .cons (.batch (simulation.batch related))
      (simulation.matches_steps (simulation.lasts related))
termination_by first.length

/-- Rearranging the nodes rearranges those that are left over. -/
theorem perm_leftover {first second : List Node} (permuted : first.Perm second) :
    (leftover first).Perm (leftover second) := by
  have sameNames : release ((ready first).map Node.name) =
      release ((ready second).map Node.name) := by
    funext node
    simp only [release, ((perm_ready permuted).map Node.name).contains_eq]
  rw [leftover, leftover, sameNames]
  exact (permuted.filter _).map _

/-- Wherever nodes with distinct names stand, the same ones are released step by step. -/
theorem isSimulation_perm :
    IsSimulation (fun first second => first.Perm second ∧ (first.map Node.name).Nodup)
      List.Perm where
  perm related := related.1
  distinct related := related.2
  batch related := perm_ready related.1
  lasts related :=
    ⟨perm_leftover related.1, Resolver.nodup_map_name_leftover related.2⟩

/-! ## Preordered nodes -/

/-- Of the nodes that satisfy a condition, none depends on the name of one. -/
def AreApart (condition : Node -> Bool) (nodes : List Node) : Prop :=
  ∀ node ∈ nodes, ∀ other ∈ nodes, condition node = true -> condition other = true ->
    other.name ∉ node.dependencies

/-- Fewer nodes are apart if more are. -/
theorem AreApart.of_subset {condition : Node -> Bool} {fewer more : List Node}
    (apart : AreApart condition more) (subset : fewer ⊆ more) : AreApart condition fewer :=
  fun node member other isOther => apart node (subset member) other (subset isOther)

/-- A node is put in its place behind all nodes that do not depend on it. -/
theorem filter_insertBack {condition : Node -> Bool} {node : Node} {lastFirst : List Node}
    (apart : AreApart condition (node :: lastFirst)) :
    (insertBack node lastFirst).filter condition = (node :: lastFirst).filter condition := by
  induction lastFirst with
  | nil => rfl
  | cons last earlier inductionHypothesis =>
      have tail := inductionHypothesis
        (apart.of_subset (List.cons_subset_cons _ (List.subset_cons_self _ _)))
      rw [insertBack]
      split
      · rename_i depends
        rw [NameSet.contains_iff] at depends
        -- The two nodes change places, so one of them is left out.
        have notBoth : condition last = true -> condition node = false := by
          intro isLast
          by_contra isNode
          exact apart last (by simp) node (by simp) isLast (by simpa using isNode) depends
        cases isLast : condition last with
        | false => simp [isLast, tail, List.filter_cons]
        | true => simp [isLast, tail, notBoth isLast]
      · rfl

/-- Preordering keeps the order of nodes that do not depend on each other. -/
theorem filter_preorder {condition : Node -> Bool} {nodes : List Node}
    (apart : AreApart condition nodes) :
    (preorder nodes).filter condition = nodes.filter condition := by
  have inserted : ∀ lastFirst, AreApart condition (nodes ++ lastFirst) ->
      (nodes.foldl (fun lastFirst node => insertBack node lastFirst) lastFirst).filter condition =
        (nodes.reverse ++ lastFirst).filter condition := by
    clear apart
    induction nodes with
    | nil => exact fun lastFirst _ => rfl
    | cons node others inductionHypothesis =>
        intro lastFirst apart
        have moved : (others ++ insertBack node lastFirst).Perm (node :: others ++ lastFirst) :=
          ((insertBack_perm node lastFirst).append_left others).trans List.perm_middle
        rw [List.foldl_cons, inductionHypothesis _ (apart.of_subset moved.subset),
          List.filter_append, filter_insertBack (apart.of_subset (by simp)), List.reverse_cons,
          List.append_assoc, List.filter_append]
        rfl
  rw [preorder, List.filter_reverse, inserted [] (by simpa using apart), List.append_nil,
    List.filter_reverse, List.reverse_reverse]

/-- The same nodes, of which those that do not depend on each other stand in one order. -/
structure Agree (first second : List Node) : Prop where
  perm : first.Perm second
  filter : ∀ condition, AreApart condition first ->
    first.filter condition = second.filter condition

/-- The preorder agrees with the nodes that it is made from. -/
theorem agree_preorder (nodes : List Node) : Agree (preorder nodes) nodes where
  perm := preorder_perm nodes
  filter _ apart := filter_preorder (apart.of_subset (preorder_perm nodes).symm.subset)

/-- A node that is ready depends on nothing. -/
theorem not_mem_dependencies_of_isReady {node : Node} (isReady : isReady node = true)
    (name : String) : name ∉ node.dependencies :=
  isEmpty_iff.mp isReady name

/-- Lists that agree have the same batch. -/
theorem Agree.ready_eq {first second : List Node} (agree : Agree first second) :
    ready first = ready second :=
  agree.filter isReady fun _ _ other _ isReady _ =>
    not_mem_dependencies_of_isReady isReady other.name

/-- What is left agrees as well. Where names are distinct, releasing nodes takes away no
dependency between two others. -/
theorem agree_leftover {first second : List Node} (agree : Agree first second)
    (distinct : (first.map Node.name).Nodup) : Agree (leftover first) (leftover second) where
  perm := perm_leftover agree.perm
  filter condition apart := by
    let names := (ready first).map Node.name
    have notReady : ∀ node ∈ first, isReady node = false -> node.name ∉ names := by
      intro node member unready isReleased
      obtain ⟨other, isOther, same⟩ := List.mem_map.mp isReleased
      obtain ⟨otherMember, otherReady⟩ := List.mem_filter.mp isOther
      obtain rfl := List.inj_on_of_nodup_map distinct otherMember member same
      rw [unready] at otherReady
      cases otherReady
    have stillApart : AreApart (fun node => condition (release names node) && !isReady node)
        first := by
      intro node member other isOther nodeHolds otherHolds depends
      simp only [Bool.and_eq_true, Bool.not_eq_true'] at nodeHolds otherHolds
      have isLeft : ∀ {node}, node ∈ first -> isReady node = false ->
          release names node ∈ leftover first :=
        fun member unready =>
          List.mem_map_of_mem (List.mem_filter.mpr ⟨member, by simp [unready]⟩)
      refine apart _ (isLeft member nodeHolds.2) _ (isLeft isOther otherHolds.2) nodeHolds.1
        otherHolds.1 ?_
      simpa [release, depends] using notReady other isOther otherHolds.2
    have left : ∀ waiting : List Node,
        ((waiting.filter (!isReady ·)).map (release names)).filter condition =
          (waiting.filter fun node => condition (release names node) && !isReady node).map
            (release names) := by
      intro waiting
      rw [List.filter_map, List.filter_filter]
      rfl
    rw [leftover, leftover, ← agree.ready_eq, left, left,
      agree.filter _ stillApart]

/-- Nodes with distinct names that agree are released in the same batches. -/
theorem isSimulation_agree :
    IsSimulation (fun first second => Agree first second ∧ (first.map Node.name).Nodup) Eq where
  perm related := related.1.perm
  distinct related := related.2
  batch related := related.1.ready_eq
  lasts related :=
    ⟨agree_leftover related.1 related.2, Resolver.nodup_map_name_leftover related.2⟩

/-- Steps that match by equality are equal. -/
theorem eq_of_matches_eq {left right : Step} (isMatch : Matches Eq left right) : left = right := by
  cases isMatch with
  | batch isSame => rw [isSame]
  | cycle cycle => rfl

/-! ## What the resolver yields -/

/-- Nodes keep their names when they stop waiting for themselves. -/
theorem map_name_withoutSelf (nodes : List Node) :
    (nodes.map withoutSelf).map Node.name = nodes.map Node.name := by
  simp [withoutSelf, Function.comp_def]

/-- Names stay distinct in the preorder. -/
theorem nodup_map_name_preorder {nodes : List Node} (distinct : (nodes.map Node.name).Nodup) :
    ((preorder (nodes.map withoutSelf)).map Node.name).Nodup := by
  rw [((preorder_perm _).map Node.name).nodup_iff, map_name_withoutSelf]
  exact distinct

/-- Preordering nodes with distinct names does not show in what the resolver yields. -/
theorem steps_ofNodes {nodes : List Node} (distinct : (nodes.map Node.name).Nodup) :
    (Resolver.ofNodes nodes).steps = (Resolver.inGivenOrder nodes).steps := by
  have agree := agree_preorder (nodes.map withoutSelf)
  have alike := isSimulation_agree.matches_steps ⟨agree, nodup_map_name_preorder distinct⟩
  rw [← List.forall₂_eq_eq_eq]
  exact alike.imp fun _ _ => eq_of_matches_eq

/-- Permuting nodes with distinct names shows only within the batches. -/
theorem steps_ofNodes_of_perm {first second : List Node} (permuted : first.Perm second)
    (distinct : (first.map Node.name).Nodup) :
    List.Forall₂ (Matches List.Perm) (Resolver.ofNodes first).steps
      (Resolver.ofNodes second).steps := by
  have waiting : (preorder (first.map withoutSelf)).Perm (preorder (second.map withoutSelf)) :=
    (preorder_perm _).trans ((permuted.map withoutSelf).trans (preorder_perm _).symm)
  exact isSimulation_perm.matches_steps ⟨waiting, nodup_map_name_preorder distinct⟩

end ProtocolHeaders.Order
