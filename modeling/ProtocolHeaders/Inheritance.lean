import ProtocolHeaders.Log.Event
import ProtocolHeaders.Model.Basic

/-!
# Inherited fields

The fields of an interface are its own ones, followed by those of each base in
declaration order, which in turn have bases. Names of bases refer to the first
top-level interface of that name; unknown names contribute nothing. A base that is
being visited already is cut, so a walk along the bases never meets a name twice
and always ends.
-/

namespace ProtocolHeaders.Inheritance

open Log (Event)

/-- What a walk along the bases of an interface meets. -/
inductive Visit where
  | field (name : String)
  /-- A base of an interface is left out because it is being visited already. -/
  | cut (base interface : String)
deriving Repr, DecidableEq

/-- The interface that a base name refers to. -/
def resolve? (interfaces : List Interface) (name : String) : Option Interface :=
  interfaces.find? (·.name == name)

/-- Whether a base name refers to an interface. -/
def isKnown (interfaces : List Interface) (name : String) : Bool :=
  (resolve? interfaces name).isSome

/-- A name resolves to an interface with this name. -/
theorem name_of_resolve? {interfaces : List Interface} {name : String} {interface : Interface}
    (resolved : resolve? interfaces name = some interface) : interface.name = name := by
  simpa using List.find?_some resolved

/-- A name resolves to an interface of the model. -/
theorem mem_of_resolve? {interfaces : List Interface} {name : String} {interface : Interface}
    (resolved : resolve? interfaces name = some interface) : interface ∈ interfaces :=
  List.mem_of_find?_eq_some resolved

/-- The number of interfaces whose names are not being visited. -/
def unvisited (interfaces : List Interface) (visiting : List String) : Nat :=
  interfaces.countP fun interface => decide (interface.name ∉ visiting)

/-- Visiting one more name leaves no more interfaces to visit. -/
theorem unvisited_cons_le (interfaces : List Interface) (visiting : List String)
    (name : String) : unvisited interfaces (name :: visiting) ≤ unvisited interfaces visiting := by
  apply List.countP_mono_left
  simp

/-- Visiting an interface for the first time leaves fewer to visit. -/
theorem unvisited_cons_lt {interfaces : List Interface} {visiting : List String}
    {interface : Interface} (member : interface ∈ interfaces)
    (fresh : interface.name ∉ visiting) :
    unvisited interfaces (interface.name :: visiting) < unvisited interfaces visiting := by
  obtain ⟨before, after, rfl⟩ := List.append_of_mem member
  have beforeLe := unvisited_cons_le before visiting interface.name
  have afterLe := unvisited_cons_le after visiting interface.name
  simp only [unvisited, List.countP_append, List.countP_cons, List.mem_cons, true_or,
    not_true_eq_false, decide_false, fresh, not_false_eq_true, decide_true] at *
  simp only [Bool.false_eq_true, if_false, if_true]
  omega

/-- What the bases of the interface called `name` contribute while the names in
`visiting` are being visited. -/
def visitBases (interfaces : List Interface) (visiting : List String) (name : String) :
    (bases : List String) -> List Visit
  | [] => []
  | base :: others =>
      (match resolved : resolve? interfaces base with
        | none => []
        | some parent =>
            if visiting.contains base then [.cut base name]
            else
              parent.fieldNames.map .field ++
                visitBases interfaces (base :: visiting) parent.name parent.bases) ++
        visitBases interfaces visiting name others
termination_by bases => (unvisited interfaces visiting, bases.length)
decreasing_by
  · rename_i fresh
    refine Prod.Lex.left _ _ ?_
    have named := name_of_resolve? resolved
    subst named
    exact unvisited_cons_lt (mem_of_resolve? resolved) (by simpa using fresh)
  · exact Prod.Lex.right _ (by simp)

/-- What the walk from an interface meets. -/
def visit (interfaces : List Interface) (interface : Interface) : List Visit :=
  interface.fieldNames.map .field ++
    visitBases interfaces [interface.name] interface.name interface.bases

/-- The own and inherited field names of an interface. Names may repeat. -/
def flatten (interfaces : List Interface) (interface : Interface) : List String :=
  (visit interfaces interface).filterMap fun
    | .field name => some name
    | .cut .. => none

/-- The bases that the walk from an interface cuts. -/
def events (interfaces : List Interface) (interface : Interface) : List Event :=
  (visit interfaces interface).filterMap fun
    | .field _ => none
    | .cut base name => some (.extensionCycle base name)

end ProtocolHeaders.Inheritance
