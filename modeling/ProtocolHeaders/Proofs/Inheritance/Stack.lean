import ProtocolHeaders.Proofs.Inheritance.Ancestors

/-!
# The stack of a walk along bases

A walk along bases can keep the names that are being visited on one stack: it pushes the name
of a base before it goes to the interface behind it, and pops whatever is on top when it comes
back. Every such walk ends, hands the stack back as it was at every call, and never has a name
on the stack twice. It meets what the walk meets that is given the visited names anew for each
base.
-/

namespace ProtocolHeaders.Inheritance

/-- A call for one interface: the stack with which it begins and the one that it leaves. -/
structure Call where
  entered : List String
  left : List String
deriving Repr, DecidableEq

/-- A walk along the bases of the interface called `name`, from the stack it begins with to
the one it leaves: what it meets, and the calls it makes for other interfaces, outer ones
before those inside them. -/
inductive Walks (interfaces : List Interface) : (stack : List String) -> (name : String) ->
    (bases : List String) -> (met : List Visit) -> (calls : List Call) ->
    (left : List String) -> Prop where
  | done {stack name} : Walks interfaces stack name [] [] [] stack
  | unknown {stack name base others met calls left}
      (unresolved : resolve? interfaces base = none)
      (rest : Walks interfaces stack name others met calls left) :
      Walks interfaces stack name (base :: others) met calls left
  | cut {stack name base parent others met calls left}
      (resolved : resolve? interfaces base = some parent) (onStack : base ∈ stack)
      (rest : Walks interfaces stack name others met calls left) :
      Walks interfaces stack name (base :: others) (.cut base name :: met) calls left
  /-- The base is pushed for the call, and what is on top afterwards is popped. -/
  | enter {stack name base parent others inner innerCalls returned met calls left}
      (resolved : resolve? interfaces base = some parent) (fresh : base ∉ stack)
      (call : Walks interfaces (base :: stack) parent.name parent.bases inner innerCalls returned)
      (rest : Walks interfaces returned.tail name others met calls left) :
      Walks interfaces stack name (base :: others)
        (parent.fieldNames.map .field ++ inner ++ met)
        (⟨base :: stack, returned⟩ :: innerCalls ++ calls) left

/-- A call is sound if no name is on its stack twice and it leaves the stack as it was. -/
def Call.IsSound (call : Call) : Prop :=
  call.entered.Nodup ∧ call.left = call.entered

variable {interfaces : List Interface} {stack left : List String} {name : String}
  {bases : List String} {met : List Visit} {calls : List Call}

/-- A walk leaves the stack as it was. -/
theorem Walks.left_eq (walks : Walks interfaces stack name bases met calls left) :
    left = stack := by
  induction walks with
  | done => rfl
  | unknown _ _ restHypothesis => exact restHypothesis
  | cut _ _ _ restHypothesis => exact restHypothesis
  | enter _ _ _ _ callHypothesis restHypothesis =>
      rw [restHypothesis, callHypothesis, List.tail_cons]

/-- Only fresh names are pushed, so from distinct names on the stack every call has distinct
ones. -/
theorem Walks.isSound_of_mem_calls (walks : Walks interfaces stack name bases met calls left)
    (distinct : stack.Nodup) : ∀ call ∈ calls, call.IsSound := by
  induction walks with
  | done => simp
  | unknown _ _ restHypothesis => exact restHypothesis distinct
  | cut _ _ _ restHypothesis => exact restHypothesis distinct
  | enter _ fresh inside _ callHypothesis restHypothesis =>
      obtain rfl := inside.left_eq
      have pushed := List.nodup_cons.mpr ⟨fresh, distinct⟩
      intro call member
      rcases List.mem_append.mp member with ofCall | ofRest
      · rcases List.mem_cons.mp ofCall with rfl | inner
        · exact ⟨pushed, rfl⟩
        · exact callHypothesis pushed call inner
      · exact restHypothesis distinct call ofRest

/-- What a walk meets is what there is to meet while the names on its stack are visited. -/
theorem Walks.met_eq (walks : Walks interfaces stack name bases met calls left) :
    met = visitBases interfaces stack name bases := by
  induction walks with
  | done => rw [visitBases]
  | unknown unresolved _ restHypothesis =>
      rw [visitBases_cons_of_unknown unresolved, restHypothesis]
  | cut resolved onStack _ restHypothesis =>
      rw [visitBases_cons_of_visited resolved onStack, restHypothesis]
  | enter resolved fresh inside _ callHypothesis restHypothesis =>
      obtain rfl := inside.left_eq
      rw [visitBases_cons_of_fresh resolved fresh, callHypothesis, restHypothesis, List.tail_cons]

/-- Along any bases and from any stack there is a walk to the end. -/
theorem exists_walks (interfaces : List Interface) (stack : List String) (name : String)
    (bases : List String) :
    ∃ calls, Walks interfaces stack name bases (visitBases interfaces stack name bases) calls
      stack := by
  induction stack, name, bases using visitBases.induct interfaces with
  | case1 stack name =>
      rw [visitBases]
      exact ⟨[], .done⟩
  | case2 stack name base others parentHypothesis othersHypothesis =>
      obtain ⟨calls, rest⟩ := othersHypothesis
      cases resolved : resolve? interfaces base with
      | none =>
          rw [visitBases_cons_of_unknown resolved]
          exact ⟨calls, .unknown resolved rest⟩
      | some parent =>
          by_cases onStack : base ∈ stack
          · rw [visitBases_cons_of_visited resolved onStack]
            exact ⟨calls, .cut resolved onStack rest⟩
          · obtain ⟨innerCalls, inside⟩ :=
              parentHypothesis parent resolved (by simpa using onStack)
            rw [visitBases_cons_of_fresh resolved onStack]
            exact ⟨_, .enter resolved onStack inside rest⟩

end ProtocolHeaders.Inheritance
