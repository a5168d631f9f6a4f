import ProtocolHeaders.Proofs.Order.Rearrangement

/-!
# Batches are levels

A node can be released once everything it depends on is, so it comes in the batch whose
number is the length of the longest chain of dependencies that starts at the node. Each batch
lists the nodes of its level as they were given. A node has no batch if its chains have no
longest one, or if one of them leads to a name that no node has.
-/

namespace ProtocolHeaders.Order

/-- A node depends on another one. That it depends on its own name does not count. -/
def DependsOn (node next : Node) : Prop :=
  next.name ∈ node.dependencies ∧ next.name ≠ node.name

/-- The nodes behind a node on a chain of dependencies among given nodes: the node depends on
the first of them, and each of them on the next. -/
def IsChainFrom (nodes : List Node) (node : Node) (chain : List Node) : Prop :=
  chain ⊆ nodes ∧ (node :: chain).IsChain DependsOn

/-- The length of the longest chain of dependencies that starts at a node. -/
structure IsLongestChain (nodes : List Node) (node : Node) (length : Nat) : Prop where
  attained : ∃ chain, IsChainFrom nodes node chain ∧ chain.length = length
  bound : ∀ chain, IsChainFrom nodes node chain -> chain.length ≤ length

/-- What a node depends on, its own name aside, are names of given nodes. -/
def KnowsDependencies (nodes : List Node) (node : Node) : Prop :=
  ∀ name ∈ node.dependencies, name ≠ node.name -> ∃ other ∈ nodes, other.name = name

/-- No chain of dependencies that starts at a node leads to a name that no node has. -/
def IsGrounded (nodes : List Node) (node : Node) : Prop :=
  ∀ chain, IsChainFrom nodes node chain -> ∀ last ∈ node :: chain, KnowsDependencies nodes last

/-! ## Chains -/

section

variable {nodes : List Node} {node : Node}

/-- An empty chain starts at any node. -/
theorem isChainFrom_nil (nodes : List Node) (node : Node) : IsChainFrom nodes node [] :=
  ⟨List.nil_subset _, .singleton node⟩

/-- A chain goes on with a dependency. -/
theorem isChainFrom_cons {next : Node} {chain : List Node} :
    IsChainFrom nodes node (next :: chain) ↔
      DependsOn node next ∧ next ∈ nodes ∧ IsChainFrom nodes next chain := by
  simp only [IsChainFrom, List.cons_subset, List.isChain_cons_cons]
  tauto

/-- No chain leads on from a node that depends on none of the given ones. -/
theorem eq_nil_of_isChainFrom {chain : List Node} (isChain : IsChainFrom nodes node chain)
    (dependsOnNone : ∀ next ∈ nodes, ¬ DependsOn node next) : chain = [] := by
  cases chain with
  | nil => rfl
  | cons next chain =>
      obtain ⟨depends, isNode, -⟩ := isChainFrom_cons.mp isChain
      exact absurd depends (dependsOnNone next isNode)

/-- The chains of a node are known to their ends and at most so long. -/
def EndsWithin (nodes : List Node) (node : Node) (length : Nat) : Prop :=
  IsGrounded nodes node ∧ ∀ chain, IsChainFrom nodes node chain -> chain.length ≤ length

/-- All chains of a node are empty exactly if it is free. -/
theorem endsWithin_zero_iff : EndsWithin nodes node 0 ↔ IsFree [] node := by
  constructor
  · rintro ⟨grounded, bound⟩ name depends differs
    obtain ⟨other, isNode, rfl⟩ :=
      grounded [] (isChainFrom_nil nodes node) node List.mem_cons_self name depends differs
    have tooLong := bound [other]
      (isChainFrom_cons.mpr ⟨⟨depends, differs⟩, isNode, isChainFrom_nil nodes other⟩)
    cases tooLong
  · intro free
    have dependsOnNone : ∀ next ∈ nodes, ¬ DependsOn node next := by
      rintro next - ⟨depends, differs⟩
      cases free next.name depends differs
    constructor
    · intro chain isChain last isLast name depends differs
      obtain rfl := eq_nil_of_isChainFrom isChain dependsOnNone
      obtain rfl := List.mem_singleton.mp isLast
      cases free name depends differs
    · intro chain isChain
      rw [eq_nil_of_isChainFrom isChain dependsOnNone]
      rfl

/-- The chains of a node end one step behind those of the nodes that it depends on. -/
theorem endsWithin_succ_iff {length : Nat} :
    EndsWithin nodes node (length + 1) ↔
      KnowsDependencies nodes node ∧
        ∀ next ∈ nodes, DependsOn node next -> EndsWithin nodes next length := by
  constructor
  · rintro ⟨grounded, bound⟩
    refine ⟨grounded [] (isChainFrom_nil nodes node) node List.mem_cons_self, ?_⟩
    intro next isNode depends
    have longer : ∀ {chain}, IsChainFrom nodes next chain ->
        IsChainFrom nodes node (next :: chain) :=
      fun isChain => isChainFrom_cons.mpr ⟨depends, isNode, isChain⟩
    constructor
    · intro chain isChain last isLast
      exact grounded _ (longer isChain) last (List.mem_cons_of_mem _ isLast)
    · intro chain isChain
      exact Nat.le_of_succ_le_succ (bound _ (longer isChain))
  · rintro ⟨known, ends⟩
    constructor
    · rintro (_ | ⟨next, chain⟩) isChain last isLast
      · obtain rfl := List.mem_singleton.mp isLast
        exact known
      · obtain ⟨depends, isNode, isChain⟩ := isChainFrom_cons.mp isChain
        rcases List.mem_cons.mp isLast with rfl | isLast
        · exact known
        · exact (ends next isNode depends).1 chain isChain last isLast
    · rintro (_ | ⟨next, chain⟩) isChain
      · exact Nat.zero_le _
      · obtain ⟨depends, isNode, isChain⟩ := isChainFrom_cons.mp isChain
        exact Nat.succ_le_succ ((ends next isNode depends).2 chain isChain)

/-- The longest chain of a grounded node is empty exactly if all its chains are. -/
theorem isLongestChain_zero_iff :
    IsLongestChain nodes node 0 ∧ IsGrounded nodes node ↔ EndsWithin nodes node 0 :=
  ⟨fun ⟨longest, grounded⟩ => ⟨grounded, longest.bound⟩, fun ⟨grounded, bound⟩ =>
    ⟨⟨⟨[], isChainFrom_nil nodes node, rfl⟩, bound⟩, grounded⟩⟩

/-- The longest chain has a length that bounds all chains where the length before does not. -/
theorem isLongestChain_succ_iff {length : Nat} :
    IsLongestChain nodes node (length + 1) ∧ IsGrounded nodes node ↔
      EndsWithin nodes node (length + 1) ∧ ¬ EndsWithin nodes node length := by
  constructor
  · rintro ⟨⟨⟨chain, isChain, isLength⟩, bound⟩, grounded⟩
    refine ⟨⟨grounded, bound⟩, fun ⟨_, shorter⟩ => ?_⟩
    have tooShort := shorter chain isChain
    omega
  · rintro ⟨⟨grounded, bound⟩, notShorter⟩
    refine ⟨⟨?_, bound⟩, grounded⟩
    by_contra notAttained
    refine notShorter ⟨grounded, fun chain isChain => ?_⟩
    have differs : chain.length ≠ length + 1 := fun same => notAttained ⟨chain, isChain, same⟩
    have atMost := bound chain isChain
    omega

end

/-! ## Levels of a course -/

/-- What is in some batch is in the batch of some number. -/
theorem mem_flatten_iff_exists_getD {batches : List (List Node)} {node : Node} :
    node ∈ batches.flatten ↔ ∃ level, node ∈ batches.getD level [] := by
  simp only [List.getD_eq_getElem?_getD]
  constructor
  · intro member
    obtain ⟨batch, isBatch, isIn⟩ := List.mem_flatten.mp member
    obtain ⟨level, found⟩ := List.getElem?_of_mem isBatch
    exact ⟨level, by rwa [found]⟩
  · rintro ⟨level, isIn⟩
    cases found : batches[level]? with
    | none => simp [found] at isIn
    | some batch =>
        exact List.mem_flatten.mpr
          ⟨batch, List.mem_of_getElem? found, by simpa [found] using isIn⟩

namespace Resolution

variable {released : List String} {waiting blocked : List Node} {batches : List (List Node)}

/-- The batches up to a number hold what is free once those before it are released. -/
theorem mem_take_succ_iff (course : Resolution released waiting batches blocked) {node : Node}
    (member : node ∈ waiting) (level : Nat) :
    node ∈ (batches.take (level + 1)).flatten ↔
      IsFree (released ++ (batches.take level).flatten.map Node.name) node := by
  induction course generalizing level with
  | @rest released blocked noneFree =>
      have bound : ¬ IsFree released node := by
        simpa [freeNodes] using List.filter_eq_nil_iff.mp noneFree node member
      simpa using bound
  | @batch released waiting batches blocked someFree course inductionHypothesis =>
      have isFree_iff : node ∈ freeNodes released waiting ↔ IsFree released node := by
        simp [freeNodes, member]
      cases level with
      | zero => simpa using isFree_iff
      | succ level =>
          rw [List.take_succ_cons, List.flatten_cons, List.mem_append, isFree_iff,
            List.take_succ_cons, List.flatten_cons, List.map_append, ← List.append_assoc]
          by_cases free : IsFree released node
          · refine iff_of_true (.inl free) (free.mono ?_)
            rw [List.append_assoc]
            exact List.subset_append_left _ _
          · rw [or_iff_right free]
            exact inductionHypothesis
              (List.mem_filter.mpr ⟨member, by simpa using free⟩) level

/-- A batch holds the nodes that are released up to its number but not before it. -/
theorem mem_getD_iff (course : Resolution released waiting batches blocked) {node : Node}
    (level : Nat) :
    node ∈ batches.getD level [] ↔
      node ∈ (batches.take (level + 1)).flatten ∧ node ∉ (batches.take level).flatten := by
  induction course generalizing level with
  | rest _ => simp
  | @batch released waiting batches blocked someFree course inductionHypothesis =>
      cases level with
      | zero => simp
      | succ level =>
          have apart : node ∈ (batches.take (level + 1)).flatten ->
              node ∉ freeNodes released waiting := by
            intro isLater isFree
            have isBound : node ∈ boundNodes released waiting := by
              obtain ⟨batch, isBatch, isIn⟩ := List.mem_flatten.mp isLater
              exact course.perm.subset (List.mem_append_left _
                (List.mem_flatten.mpr ⟨batch, List.mem_of_mem_take isBatch, isIn⟩))
            have free := (List.mem_filter.mp isFree).2
            have bound := (List.mem_filter.mp isBound).2
            rw [free] at bound
            cases bound
          rw [List.getD_cons_succ, inductionHypothesis, List.take_succ_cons, List.flatten_cons,
            List.take_succ_cons, List.flatten_cons, List.mem_append, List.mem_append]
          tauto

/-- A batch lists its nodes in the order in which they waited. -/
theorem sublist_of_mem (course : Resolution released waiting batches blocked) :
    ∀ batch ∈ batches, batch.Sublist waiting := by
  induction course with
  | rest _ => simp
  | batch _ _ inductionHypothesis =>
      refine List.forall_mem_cons.mpr ⟨List.filter_sublist, fun batch member => ?_⟩
      exact (inductionHypothesis batch member).trans List.filter_sublist

/-- If names are distinct, the batches up to a number hold the nodes whose chains end within
that number of steps. -/
theorem mem_take_succ_iff_endsWithin (course : Resolution [] waiting batches blocked)
    (distinct : (waiting.map Node.name).Nodup) {node : Node} (member : node ∈ waiting)
    (level : Nat) :
    node ∈ (batches.take (level + 1)).flatten ↔ EndsWithin waiting node level := by
  induction level generalizing node with
  | zero => simpa [endsWithin_zero_iff] using course.mem_take_succ_iff member 0
  | succ level inductionHypothesis =>
      rw [course.mem_take_succ_iff member, endsWithin_succ_iff, List.nil_append]
      constructor
      · intro free
        have releasedBefore : ∀ name ∈ node.dependencies, name ≠ node.name ->
            ∃ other ∈ waiting, other.name = name ∧ EndsWithin waiting other level := by
          intro name depends differs
          obtain ⟨other, isReleased, rfl⟩ := List.mem_map.mp (free name depends differs)
          have isNode : other ∈ waiting := by
            obtain ⟨batch, isBatch, isIn⟩ := List.mem_flatten.mp isReleased
            exact (course.sublist_of_mem batch (List.mem_of_mem_take isBatch)).subset isIn
          exact ⟨other, isNode, rfl, (inductionHypothesis isNode).mp isReleased⟩
        constructor
        · intro name depends differs
          obtain ⟨other, isNode, same, -⟩ := releasedBefore name depends differs
          exact ⟨other, isNode, same⟩
        · rintro next isNode ⟨depends, differs⟩
          obtain ⟨other, isOther, same, ends⟩ := releasedBefore next.name depends differs
          obtain rfl := List.inj_on_of_nodup_map distinct isOther isNode same
          exact ends
      · rintro ⟨known, ends⟩ name depends differs
        obtain ⟨other, isNode, rfl⟩ := known name depends differs
        exact List.mem_map_of_mem
          ((inductionHypothesis isNode).mpr (ends other isNode ⟨depends, differs⟩))

/-- If names are distinct, a batch holds the nodes whose longest chain is as long as its
number says. -/
theorem mem_getD_iff_isLongestChain (course : Resolution [] waiting batches blocked)
    (distinct : (waiting.map Node.name).Nodup) {node : Node} (member : node ∈ waiting)
    (level : Nat) :
    node ∈ batches.getD level [] ↔
      IsLongestChain waiting node level ∧ IsGrounded waiting node := by
  rw [course.mem_getD_iff, course.mem_take_succ_iff_endsWithin distinct member]
  cases level with
  | zero => simp [isLongestChain_zero_iff]
  | succ level =>
      rw [course.mem_take_succ_iff_endsWithin distinct member, isLongestChain_succ_iff]

/-- Every node has a level exactly if none is left. -/
theorem blocked_eq_nil_iff (course : Resolution [] waiting batches blocked)
    (distinct : (waiting.map Node.name).Nodup) :
    blocked = [] ↔
      ∀ node ∈ waiting, ∃ level, IsLongestChain waiting node level ∧ IsGrounded waiting node := by
  have released_iff : ∀ node ∈ waiting, node ∈ batches.flatten ↔
      ∃ level, IsLongestChain waiting node level ∧ IsGrounded waiting node := by
    intro node member
    simp only [← course.mem_getD_iff_isLongestChain distinct member]
    exact mem_flatten_iff_exists_getD
  constructor
  · rintro rfl node member
    refine (released_iff node member).mp ?_
    simpa using course.perm.mem_iff.mpr member
  · intro haveLevels
    refine List.eq_nil_iff_forall_not_mem.mpr fun node left => ?_
    have member : node ∈ waiting := course.perm.subset (List.mem_append_right _ left)
    have together : (batches.flatten ++ blocked).Nodup :=
      course.perm.nodup_iff.mpr distinct.of_map
    exact (List.nodup_append.mp together).2.2 node
      ((released_iff node member).mpr (haveLevels node member)) node left rfl

/-- What the resolver yields on a course: its batches, and the cycle of what is left. -/
theorem steps_after (course : Resolution released waiting batches blocked) :
    ∃ failure? : Option Cycle, (failure? = none ↔ blocked = []) ∧
      (Resolver.after released waiting).steps =
        batches.map (fun batch => .ok (batch.map settled)) ++ failure?.toList.map .error := by
  induction course with
  | @rest released blocked noneFree =>
      by_cases noneWait : blocked = []
      · subst noneWait
        exact ⟨none, by simp, Resolver.steps_of_nil⟩
      · refine ⟨some ⟨(Resolver.after released blocked).blocked⟩, by simpa using noneWait, ?_⟩
        refine Resolver.steps_of_stuck (by simpa using noneWait) ?_
        have noneReady := Resolver.filter_isReady_after released blocked
        rw [noneFree] at noneReady
        exact noneReady
  | @batch released waiting batches blocked someFree course inductionHypothesis =>
      obtain ⟨failure?, fails_iff, yields⟩ := inductionHypothesis
      refine ⟨failure?, fails_iff, ?_⟩
      rw [Resolver.steps, Resolver.run_of_next_eq_some (Resolver.next_after_of_free someFree),
        List.map_cons, List.map_cons, List.cons_append, ← yields]
      rfl

end Resolution

/-! ## Levels of a list -/

/-- What the resolver yields for a list of nodes is settled by their levels. -/
structure ComesInLevels (nodes : List Node) : Prop where
  /-- Preordering does not show. -/
  inGivenOrder : (Resolver.ofNodes nodes).steps = (Resolver.inGivenOrder nodes).steps
  /-- Each batch lists the nodes of its level as they were given. A cycle follows exactly if
  some node has no level. -/
  levels : ∃ (batches : List (List Node)) (failure? : Option Cycle),
    (Resolver.ofNodes nodes).steps =
        batches.map (fun batch => .ok (batch.map settled)) ++ failure?.toList.map .error ∧
      (∀ level, (batches.getD level []).Sublist nodes ∧
        ∀ node ∈ nodes, node ∈ batches.getD level [] ↔
          IsLongestChain nodes node level ∧ IsGrounded nodes node) ∧
      (failure? = none ↔
        ∀ node ∈ nodes, ∃ level, IsLongestChain nodes node level ∧ IsGrounded nodes node)
  /-- Where the nodes are given shows only within the batches. -/
  permuted : ∀ permuted : List Node, permuted.Perm nodes ->
    List.Forall₂ (Matches List.Perm) (Resolver.ofNodes permuted).steps
      (Resolver.ofNodes nodes).steps

/-- Nodes with distinct names are released level by level: with the number of a batch come
the nodes whose longest chain of dependencies has this length and does not lead, nor any other
of their chains, to a name that no node has. Within a batch they stand as they were given. -/
theorem batches_are_levels (nodes : List Node) (distinct : (nodes.map Node.name).Nodup) :
    ComesInLevels nodes where
  inGivenOrder := steps_ofNodes distinct
  levels := by
    obtain ⟨batches, blocked, course⟩ := exists_resolution [] nodes
    obtain ⟨failure?, fails_iff, yields⟩ := course.steps_after
    have starts : Resolver.inGivenOrder nodes = Resolver.after [] nodes := by
      rw [Resolver.inGivenOrder, Resolver.after, funext withoutSelf_eq_holding]
    refine ⟨batches, failure?, ?_, fun level => ⟨?_, ?_⟩, ?_⟩
    · rw [steps_ofNodes distinct, starts, yields]
    · rw [List.getD_eq_getElem?_getD]
      cases found : batches[level]? with
      | none => exact List.nil_sublist _
      | some batch => exact course.sublist_of_mem batch (List.mem_of_getElem? found)
    · exact fun node member => course.mem_getD_iff_isLongestChain distinct member level
    · rw [fails_iff, course.blocked_eq_nil_iff distinct]
  permuted permuted isPermuted :=
    steps_ofNodes_of_perm isPermuted ((isPermuted.map Node.name).nodup_iff.mpr distinct)

/-- Nodes on three levels, given in the wrong order, two of which depend on themselves, and
two nodes that depend on each other. -/
def layeredNodes : List Node :=
  [.interface { name := "Tree", dependencies := .ofList ["Leaf", "Text", "Tree"] },
    .interface { name := "Odd", dependencies := .ofList ["Even"] },
    .interface { name := "Leaf", dependencies := .ofList ["Leaf", "Text"] },
    .typeAlias { name := "Text", type := .base "std::string" },
    .interface { name := "Even", dependencies := .ofList ["Odd"] }]

/-- The nodes on three levels come in levels, wherever they are given. -/
theorem layeredNodes_come_in_levels :
    (layeredNodes.map Node.name).Nodup ∧ ComesInLevels layeredNodes :=
  ⟨by decide, batches_are_levels layeredNodes (by decide)⟩

/-- A node that depends on a name that no node has is in no batch: neither in that of its
longest chain, which has length zero, nor in the one behind it, as if the step to the name
counted. -/
theorem node_with_unknown_dependency_has_no_level :
    let lost : Node := .interface { name := "A", dependencies := .ofList ["X"] }
    let first : Node := .interface { name := "B" }
    let second : Node := .interface { name := "C", dependencies := .ofList ["B"] }
    let nodes := [lost, first, second]
    (nodes.map Node.name).Nodup ∧ IsLongestChain nodes lost 0 ∧
      (Resolver.ofNodes nodes).steps =
        [.ok [first], .ok [settled second], .error ⟨[⟨"A", .ofList ["X"]⟩]⟩] := by
  intro lost first second nodes
  have dependsOnNone : ∀ next ∈ nodes, ¬ DependsOn lost next := by
    rintro next isNode ⟨depends, -⟩
    revert next
    decide
  refine ⟨by decide, ⟨⟨[], isChainFrom_nil nodes lost, rfl⟩, fun chain isChain => ?_⟩,
    by decide +kernel⟩
  rw [eq_nil_of_isChainFrom isChain dependsOnNone]
  rfl

end ProtocolHeaders.Order
