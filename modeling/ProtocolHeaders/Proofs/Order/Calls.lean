import Mathlib.Logic.Function.Iterate
import ProtocolHeaders.Proofs.Order.Rearrangement

/-!
# Calls of a resolver

A resolver can be called as often as one likes, also when it has nothing left to answer. What a
call does is said once, by the state in which it finds the resolver (`Call`). Each call hands
nodes over from those that wait to those that are released, and what it answers is paid for: a
batch with a node that no longer waits, a cycle with the resolver's going on.
-/

namespace ProtocolHeaders.Order.Resolver

/-- What a call answers: the next step, if there is one. -/
def answer? (resolver : Resolver) : Option Step :=
  resolver.next.map Prod.fst

/-- The resolver after a call. Without a next step it stays as it is. -/
def advance (resolver : Resolver) : Resolver :=
  match resolver.next with
  | none => resolver
  | some (_, after) => after

/-- What a number of calls answer, one after the other. -/
def answers : (count : Nat) -> Resolver -> List (Option Step)
  | 0, _ => []
  | count + 1, resolver => resolver.answer? :: answers count resolver.advance

/-- The nodes that an answer releases. -/
def releasedBy : (answer? : Option Step) -> List Node
  | some (.ok batch) => batch
  | _ => []

/-- Whether an answer is a batch. -/
def isBatch : (answer? : Option Step) -> Bool
  | some (.ok _) => true
  | _ => false

/-- Whether an answer is a cycle. -/
def isCycle : (answer? : Option Step) -> Bool
  | some (.error _) => true
  | _ => false

/-! ## One call -/

/-- Whether a resolver has nothing left to answer: it is stuck, or no node waits. -/
def IsOver (resolver : Resolver) : Prop :=
  resolver.stuck = true ∨ resolver.waiting = []

/-- What a call of a resolver answers, and what it makes of the resolver. -/
inductive Call (resolver : Resolver) : Option Step -> Resolver -> Prop where
  | silent (ended : resolver.IsOver) : Call resolver none resolver
  | cycle (goesOn : ¬ resolver.IsOver) (noneReady : ready resolver.waiting = []) :
      Call resolver (some (.error ⟨resolver.blocked⟩)) { resolver with stuck := true }
  | batch (goesOn : ¬ resolver.IsOver) (someReady : ready resolver.waiting ≠ []) :
      Call resolver (some (.ok (ready resolver.waiting)))
        { resolver with waiting := leftover resolver.waiting }

/-- Every call of a resolver is one of those that can happen. -/
theorem call (resolver : Resolver) : Call resolver resolver.answer? resolver.advance := by
  have isOver_iff : (resolver.stuck || resolver.waiting.isEmpty) = true ↔ resolver.IsOver := by
    rw [IsOver, Bool.or_eq_true, List.isEmpty_iff]
  rw [answer?, advance]
  by_cases ended : resolver.IsOver
  · have finished : resolver.next = none := by
      rw [next, if_pos (isOver_iff.mpr ended)]
    rw [finished]
    exact .silent ended
  · by_cases noneReady : ready resolver.waiting = []
    · have stepped : resolver.next =
          some (.error ⟨resolver.blocked⟩, { resolver with stuck := true }) := by
        rw [next, if_neg (mt isOver_iff.mp ended)]
        exact if_pos (List.isEmpty_iff.mpr noneReady)
      rw [stepped]
      exact .cycle ended noneReady
    · have stepped : resolver.next =
          some (.ok (ready resolver.waiting),
            { resolver with waiting := leftover resolver.waiting }) := by
        rw [next, if_neg (mt isOver_iff.mp ended)]
        exact if_neg (mt List.isEmpty_iff.mp noneReady)
      rw [stepped]
      exact .batch ended noneReady

/-- A call is known by its answer. -/
theorem call_of_answer {resolver : Resolver} {answer? : Option Step}
    (answered : resolver.answer? = answer?) : Call resolver answer? resolver.advance :=
  answered ▸ resolver.call

/-- A release only takes dependencies away. -/
theorem settled_release (names : List String) (node : Node) :
    settled (release names node) = settled node := by
  simp [settled, release]

/-- The nodes that are left over are those that were not ready. -/
theorem map_settled_leftover (waiting : List Node) :
    (leftover waiting).map settled = (waiting.filter (!isReady ·)).map settled := by
  rw [leftover, List.map_map]
  exact List.map_congr_left fun node _ => settled_release _ node

section

variable {resolver after : Resolver} {answer? : Option Step}

/-- A call neither loses a node nor makes one up. -/
theorem Call.perm (call : Call resolver answer? after) :
    ((releasedBy answer? ++ after.waiting).map settled).Perm (resolver.waiting.map settled) := by
  cases call with
  | silent _ => exact .refl _
  | cycle _ _ => exact .refl _
  | batch _ _ =>
      have parted : (ready resolver.waiting ++ resolver.waiting.filter (!isReady ·)).Perm
          resolver.waiting :=
        List.filter_append_perm isReady resolver.waiting
      rw [List.map_append, map_settled_leftover, ← List.map_append]
      exact parted.map settled

/-- A batch is not empty, so fewer nodes wait after it. -/
theorem Call.of_batch {batch : List Node} (call : Call resolver (some (.ok batch)) after) :
    batch ≠ [] ∧ after.remaining < resolver.remaining := by
  cases call with
  | batch _ someReady => exact ⟨someReady, length_leftover_lt someReady⟩

/-- A cycle leaves the nodes that wait in their places. -/
theorem Call.of_cycle {cycle : Cycle} (call : Call resolver (some (.error cycle)) after) :
    after.waiting = resolver.waiting ∧ after.IsOver := by
  cases call with
  | cycle _ _ => exact ⟨rfl, .inl rfl⟩

/-- A call that answers nothing changes nothing. -/
theorem Call.of_none (call : Call resolver none after) : after = resolver ∧ resolver.IsOver := by
  cases call with
  | silent ended => exact ⟨rfl, ended⟩

/-- Nothing is answered once the resolver has nothing left to answer. -/
theorem Call.eq_none (call : Call resolver answer? after) (ended : resolver.IsOver) :
    answer? = none := by
  cases call with
  | silent _ => rfl
  | cycle goesOn _ => exact absurd ended goesOn
  | batch goesOn _ => exact absurd ended goesOn

/-- A batch is paid for with the nodes that no longer wait. -/
theorem Call.isBatch_add_remaining_le (call : Call resolver answer? after) :
    (if isBatch answer? then 1 else 0) + after.remaining ≤ resolver.remaining := by
  cases call with
  | silent _ => simp [isBatch]
  | cycle _ _ => simp [isBatch, remaining]
  | batch _ someReady =>
      have fewer := length_leftover_lt someReady
      simp only [isBatch, remaining, if_true]
      omega

/-- A resolver can still get stuck unless it is. -/
def cyclesLeft (resolver : Resolver) : Nat :=
  if resolver.stuck then 0 else 1

/-- A cycle is paid for with the resolver's getting stuck. -/
theorem Call.isCycle_add_cyclesLeft_le (call : Call resolver answer? after) :
    (if isCycle answer? then 1 else 0) + after.cyclesLeft ≤ resolver.cyclesLeft := by
  cases call with
  | silent _ => simp [isCycle]
  | cycle goesOn _ =>
      have unstuck : resolver.stuck = false := by
        simpa using mt Or.inl goesOn
      simp [isCycle, cyclesLeft, unstuck]
  | batch _ _ => simp [isCycle, cyclesLeft]

/-- Every answer is paid for with a step that was left. -/
theorem Call.stepsLeft_lt (call : Call resolver answer? after) (answered : answer? ≠ none) :
    after.stepsLeft < resolver.stepsLeft := by
  have unstuck : ¬ resolver.IsOver -> resolver.stuck = false := fun goesOn => by
    simpa using mt Or.inl goesOn
  cases call with
  | silent _ => exact absurd rfl answered
  | cycle goesOn _ => simp [stepsLeft, unstuck goesOn]
  | batch goesOn someReady =>
      have fewer := length_leftover_lt someReady
      simp [stepsLeft, unstuck goesOn, fewer]

end

/-! ## Many calls -/

/-- No further call answers anything. -/
def IsSilent (resolver : Resolver) : Prop :=
  ∀ count, (advance^[count] resolver).answer? = none

/-- A resolver that is over stays silent. -/
theorem isSilent_of_isOver {resolver : Resolver} (ended : resolver.IsOver) :
    resolver.IsSilent := by
  intro count
  have unanswered : resolver.answer? = none := resolver.call.eq_none ended
  have unchanged : resolver.advance = resolver := (call_of_answer unanswered).of_none.1
  rw [Function.iterate_fixed unchanged, unanswered]

/-- Calls neither lose a node nor make one up. -/
theorem perm_answers (count : Nat) (resolver : Resolver) :
    (((answers count resolver).flatMap releasedBy ++
        (advance^[count] resolver).waiting).map settled).Perm
      (resolver.waiting.map settled) := by
  induction count generalizing resolver with
  | zero => exact .refl _
  | succ count inductionHypothesis =>
      have later := inductionHypothesis resolver.advance
      have first := resolver.call.perm
      rw [List.map_append] at first
      rw [answers, List.flatMap_cons, List.append_assoc, List.map_append]
      exact (later.append_left _).trans first

/-- Answers of a kind that each call pays for are at most as many as the resolver can pay. -/
theorem countP_answers_add_le {isKind : Option Step -> Bool} {potential : Resolver -> Nat}
    (pays : ∀ resolver : Resolver,
      (if isKind resolver.answer? then 1 else 0) + potential resolver.advance ≤
        potential resolver)
    (count : Nat) (resolver : Resolver) :
    (answers count resolver).countP isKind + potential (advance^[count] resolver) ≤
      potential resolver := by
  induction count generalizing resolver with
  | zero => simp [answers]
  | succ count inductionHypothesis =>
      have first := pays resolver
      have others := inductionHypothesis resolver.advance
      rw [answers, List.countP_cons, Function.iterate_succ_apply]
      omega

/-- A resolver that still answers has taken fewer calls than it had steps. -/
theorem lt_stepsLeft_of_answer {count : Nat} {resolver : Resolver}
    (answered : (advance^[count] resolver).answer? ≠ none) : count < resolver.stepsLeft := by
  induction count generalizing resolver with
  | zero => exact Nat.zero_lt_of_lt (resolver.call.stepsLeft_lt answered)
  | succ count inductionHypothesis =>
      have later := inductionHypothesis answered
      have first : resolver.answer? ≠ none := by
        intro unanswered
        have ended := (call_of_answer unanswered).of_none.2
        exact answered (isSilent_of_isOver ended (count + 1))
      have fewer := resolver.call.stepsLeft_lt first
      omega

/-! ## Calls of the resolver of some nodes -/

/-- The account of the nodes and the answers of a resolver that was called. -/
structure AccountsFor (nodes : List Node) (answers : List (Option Step))
    (resolver : Resolver) : Prop where
  /-- The released nodes and those that wait are the given ones, but for dependency sets. -/
  perm : ((answers.flatMap releasedBy ++ resolver.waiting).map settled).Perm
    (nodes.map settled)
  batches : answers.countP isBatch ≤ nodes.length
  cycles : answers.countP isCycle ≤ 1

/-- What the next call of a resolver does. -/
structure AnswersWell (resolver : Resolver) : Prop where
  batch : ∀ batch, resolver.answer? = some (.ok batch) ->
    batch ≠ [] ∧ resolver.advance.remaining < resolver.remaining
  cycle : ∀ cycle, resolver.answer? = some (.error cycle) ->
    resolver.advance.waiting = resolver.waiting ∧ resolver.advance.IsSilent
  exhausted : resolver.waiting = [] -> resolver.IsSilent
  silent : resolver.answer? = none -> resolver.IsSilent

/-- A resolver answers well, whatever waits in it. -/
theorem answersWell (resolver : Resolver) : resolver.AnswersWell where
  batch _ answered := (call_of_answer answered).of_batch
  cycle _ answered := by
    obtain ⟨inPlace, ended⟩ := (call_of_answer answered).of_cycle
    exact ⟨inPlace, isSilent_of_isOver ended⟩
  exhausted noneWait := isSilent_of_isOver (.inr noneWait)
  silent unanswered := isSilent_of_isOver (call_of_answer unanswered).of_none.2

/-- The answers of a fresh resolver and what waits behind them account for all its nodes. -/
theorem accountsFor_ofNodes (nodes : List Node) (count : Nat) :
    AccountsFor nodes (answers count (ofNodes nodes)) (advance^[count] (ofNodes nodes)) := by
  have arranged : (ofNodes nodes).waiting.Perm (nodes.map withoutSelf) :=
    preorder_perm (nodes.map withoutSelf)
  have sameNodes : (nodes.map withoutSelf).map settled = nodes.map settled := by
    rw [List.map_map]
    exact List.map_congr_left fun node _ => by simp [settled, withoutSelf]
  have sameLength : (ofNodes nodes).remaining = nodes.length :=
    arranged.length_eq.trans (List.length_map _)
  have batches := countP_answers_add_le (fun resolver => resolver.call.isBatch_add_remaining_le)
    count (ofNodes nodes)
  have cycles := countP_answers_add_le (fun resolver => resolver.call.isCycle_add_cyclesLeft_le)
    count (ofNodes nodes)
  constructor
  · rw [← sameNodes]
    exact (perm_answers count (ofNodes nodes)).trans (arranged.map settled)
  · omega
  · exact (Nat.le_add_right _ _).trans cycles

/-- However often the resolver of some nodes is called, the nodes that it released and those that
wait are together the nodes that it was given, but for their dependency sets. It yields at most
one batch for each node and at most one cycle. The next call either releases some of the nodes
that wait, or leaves them all in place, and then, as when no node waits, nothing is answered any
more. This is so at the latest after one call more than there are nodes. -/
theorem calls_account_for_nodes (nodes : List Node) (count : Nat) :
    AccountsFor nodes (answers count (ofNodes nodes)) (advance^[count] (ofNodes nodes)) ∧
      (advance^[count] (ofNodes nodes)).AnswersWell ∧
      (advance^[nodes.length + 1] (ofNodes nodes)).IsSilent := by
  refine ⟨accountsFor_ofNodes nodes count, answersWell _, fun further => ?_⟩
  have steps : (ofNodes nodes).stepsLeft = nodes.length + 1 := by
    simp [stepsLeft, ofNodes, (preorder_perm _).length_eq]
  rw [← Function.iterate_add_apply]
  by_contra answered
  have fewer := lt_stepsLeft_of_answer answered
  omega

end ProtocolHeaders.Order.Resolver
