import Mathlib.Data.List.Chain
import Mathlib.Data.List.Induction
import ProtocolHeaders.Proofs.Order.Resolution
import ProtocolHeaders.Proofs.Text.Trimming

/-!
# Where preordering puts a node

Preordering is an insertion sort by a relation that is no order: to depend on a name is neither
transitive nor antisymmetric, so the result is not sorted in any sense, and a node can stay in
front of one that it depends on. What holds of the result comes from what one step does
(`exists_preorder_concat`): a node passes others as long as they depend on it. So of two nodes that
change places the one that was first depends on the other (`IsArrangement`). And a step makes two
new pairs of neighbours, a node that does not depend on the one that is put behind it, and the one
that is put there in front of a node that depends on it, so two neighbours depend on each other
where the first one depends on the second (`isChain_preorder`).
-/

namespace ProtocolHeaders.Order

/-! ## One step -/

/-- A node passes the nodes that depend on it, up to the first one that does not. -/
theorem insertBack_eq (node : Node) (lastFirst : List Node) :
    insertBack node lastFirst =
      lastFirst.takeWhile (·.dependencies.contains node.name) ++
        node :: lastFirst.dropWhile (·.dependencies.contains node.name) := by
  induction lastFirst with
  | nil => rfl
  | cons last earlier inductionHypothesis =>
      rw [insertBack, List.takeWhile_cons, List.dropWhile_cons]
      split
      · rw [inductionHypothesis, List.cons_append]
      · rfl

/-- The last node is put behind the last one of the others, preordered, that does not depend on
it. -/
theorem preorder_concat (nodes : List Node) (node : Node) :
    preorder (nodes ++ [node]) =
      (preorder nodes).rdropWhile (·.dependencies.contains node.name) ++
        node :: (preorder nodes).rtakeWhile (·.dependencies.contains node.name) := by
  rw [preorder, List.foldl_append, List.foldl_cons, List.foldl_nil, insertBack_eq,
    List.reverse_append, List.reverse_cons, List.append_assoc, preorder, List.rdropWhile,
    List.rtakeWhile, List.reverse_reverse]
  rfl

/-- What a step does: it parts the nodes that are preordered so far, and the new node comes
between the parts. -/
theorem exists_preorder_concat (nodes : List Node) (node : Node) :
    ∃ front passed, preorder nodes = front ++ passed ∧
      preorder (nodes ++ [node]) = front ++ node :: passed ∧
      (∀ last ∈ front.getLast?, node.name ∉ last.dependencies) ∧
      ∀ other ∈ passed, node.name ∈ other.dependencies := by
  refine ⟨_, _, List.rdropWhile_append_rtakeWhile.symm, preorder_concat nodes node, ?_, ?_⟩
  · intro last isLast
    have stops := Text.condition_getLast?_rdropWhile isLast
    exact NameSet.contains_eq_false_iff.mp stops
  · intro other isPassed
    have passes := List.mem_rtakeWhile_imp isPassed
    exact NameSet.contains_iff.mp passes

/-! ## Nodes that change places -/

/-- The nodes of a list, each with its place in the list, in an order in which a node comes in
front of one that was before it only if that one depends on it. -/
structure IsArrangement (nodes : List Node) (placed : List (Node × Nat)) : Prop where
  perm : placed.Perm nodes.zipIdx
  passes : placed.Pairwise fun first second =>
    second.2 < first.2 -> first.1.name ∈ second.1.dependencies

theorem IsArrangement.lt_length {nodes : List Node} {placed : List (Node × Nat)}
    (arranged : IsArrangement nodes placed) {entry : Node × Nat} (member : entry ∈ placed) :
    entry.2 < nodes.length := by
  obtain ⟨_, below, -⟩ := List.mem_zipIdx (arranged.perm.subset member)
  omega

/-- One node more may pass nodes that depend on it. -/
theorem IsArrangement.concat {nodes : List Node} {node : Node} {front passed : List (Node × Nat)}
    (arranged : IsArrangement nodes (front ++ passed))
    (depend : ∀ entry ∈ passed, node.name ∈ entry.1.dependencies) :
    IsArrangement (nodes ++ [node]) (front ++ (node, nodes.length) :: passed) where
  perm := by
    have last : (nodes ++ [node]).zipIdx = nodes.zipIdx ++ [(node, nodes.length)] := by
      simp [List.zipIdx_append]
    rw [last]
    calc front ++ (node, nodes.length) :: passed
      _ |>.Perm ((node, nodes.length) :: (front ++ passed)) := List.perm_middle
      _ |>.Perm ((node, nodes.length) :: nodes.zipIdx) := arranged.perm.cons _
      _ |>.Perm (nodes.zipIdx ++ [(node, nodes.length)]) := (List.perm_append_singleton _ _).symm
  passes := by
    obtain ⟨inFront, inPassed, across⟩ := List.pairwise_append.mp arranged.passes
    refine List.pairwise_append.mpr ⟨inFront, List.pairwise_cons.mpr ⟨?_, inPassed⟩, ?_⟩
    · intro entry isPassed _
      exact depend entry isPassed
    · intro entry isFront other isBehind
      rcases List.mem_cons.mp isBehind with rfl | isPassed
      · -- The new node was behind all others.
        intro later
        have earlier := arranged.lt_length (List.mem_append_left _ isFront)
        omega
      · exact across entry isFront other isPassed

/-- Preordering arranges the nodes. -/
theorem exists_isArrangement (nodes : List Node) :
    ∃ placed, IsArrangement nodes placed ∧ placed.map Prod.fst = preorder nodes := by
  induction nodes using List.reverseRecOn with
  | nil => exact ⟨[], ⟨.refl _, .nil⟩, rfl⟩
  | append_singleton nodes node inductionHypothesis =>
      obtain ⟨placed, arranged, placed_eq⟩ := inductionHypothesis
      obtain ⟨front, passed, parts, result, -, depend⟩ := exists_preorder_concat nodes node
      rw [parts] at placed_eq
      obtain ⟨placedFront, placedPassed, rfl, rfl, rfl⟩ := List.map_eq_append_iff.mp placed_eq
      refine ⟨placedFront ++ (node, nodes.length) :: placedPassed, arranged.concat ?_, ?_⟩
      · intro entry isPassed
        exact depend entry.1 (List.mem_map_of_mem isPassed)
      · rw [result, List.map_append, List.map_cons]

/-! ## Neighbours -/

/-- Two nodes each of which depends on the name of the other one. -/
def DependOnEachOther (first second : Node) : Prop :=
  second.name ∈ first.dependencies ∧ first.name ∈ second.dependencies

instance (first second : Node) : Decidable (DependOnEachOther first second) :=
  inferInstanceAs (Decidable (_ ∧ _))

theorem DependOnEachOther.symm {first second : Node} (both : DependOnEachOther first second) :
    DependOnEachOther second first :=
  And.symm both

/-- A node that depends on the one behind it stands there because that one depends on it too. -/
theorem isChain_preorder (nodes : List Node) :
    (preorder nodes).IsChain fun node next =>
      next.name ∈ node.dependencies -> DependOnEachOther node next := by
  induction nodes using List.reverseRecOn with
  | nil => exact .nil
  | append_singleton nodes node inductionHypothesis =>
      obtain ⟨front, passed, parts, result, stops, depend⟩ := exists_preorder_concat nodes node
      rw [parts, List.isChain_append] at inductionHypothesis
      obtain ⟨inFront, inPassed, -⟩ := inductionHypothesis
      rw [result, List.isChain_append, List.isChain_cons]
      refine ⟨inFront, ⟨?_, inPassed⟩, ?_⟩
      -- The pair behind the new node, then the one in front of it.
      · intro next isNext onNext
        exact ⟨onNext, depend next (List.mem_of_mem_head? isNext)⟩
      · intro last isLast first isFirst onNode
        obtain rfl : node = first := by simpa using isFirst
        exact absurd onNode (stops last isLast)

/-- Where no two nodes depend on each other, none depends on the one directly behind it. -/
theorem isChain_preorder_of_pairwise {nodes : List Node}
    (oneWay : nodes.Pairwise fun first second => ¬ DependOnEachOther first second) :
    (preorder nodes).IsChain fun node next => next.name ∉ node.dependencies := by
  have arranged : (preorder nodes).Pairwise fun first second =>
      ¬ DependOnEachOther first second :=
    oneWay.perm (preorder_perm nodes).symm fun apart both => apart both.symm
  have excused := isChain_preorder nodes
  rw [List.isChain_iff_forall_rel_of_append_cons_cons] at excused ⊢
  intro node next before behind parts depends
  rw [parts] at arranged
  obtain ⟨-, fromNode, -⟩ := List.pairwise_append.mp arranged
  have apart : ¬ DependOnEachOther node next :=
    List.rel_of_pairwise_cons fromNode List.mem_cons_self
  exact apart (excused parts depends)

/-- Preordering permutes the nodes, and where two of them change places, the one that was first
depends on the other one. If no two nodes in different places of the list depend on each other, then
no node of the result depends on the one directly behind it. -/
theorem preorder_moves_dependencies_forward (nodes : List Node) :
    (∃ placed, IsArrangement nodes placed ∧ placed.map Prod.fst = preorder nodes) ∧
      (nodes.Pairwise (fun first second => ¬ DependOnEachOther first second) ->
        (preorder nodes).IsChain fun node next => next.name ∉ node.dependencies) :=
  ⟨exists_isArrangement nodes, isChain_preorder_of_pairwise⟩

/-- An edit is moved behind the range that it has, but the position that ranges consist of stays
behind both: it is listed last, and the edit does not depend on it. -/
theorem range_is_moved_in_front_of_edit :
    let edit : Node := .interface { name := "Edit", dependencies := .ofList ["Range"] }
    let range : Node := .interface { name := "Range", dependencies := .ofList ["Position"] }
    let position : Node := .interface { name := "Position" }
    [edit, range, position].Pairwise (fun first second => ¬ DependOnEachOther first second) ∧
      preorder [edit, range, position] = [range, edit, position] ∧
      [range, edit, position].IsChain fun node next => next.name ∉ node.dependencies := by
  intro edit range position
  have oneWay : [edit, range, position].Pairwise
      (fun first second => ¬ DependOnEachOther first second) := by decide +kernel
  have moved : preorder [edit, range, position] = [range, edit, position] := by decide +kernel
  have apart := (preorder_moves_dependencies_forward [edit, range, position]).2 oneWay
  rw [moved] at apart
  exact ⟨oneWay, moved, apart⟩

end ProtocolHeaders.Order
