import Mathlib.Data.List.Basic
import ProtocolHeaders.Proofs.Inheritance.Stack

/-!
# Paths along bases

A path along bases starts at an interface and follows, step by step, one of the bases of the
interface reached so far. Flattening an interface comes to going through all paths that repeat
no name, depth first and in the order of declaration: each contributes the own fields of the
interface at its end, and wherever a path would repeat a name, it is cut with a warning. The
same interface may be reached on several paths; its fields then count once for each.
-/

namespace ProtocolHeaders.Inheritance

open Log (Event)

/-- The warning that a walk gives at a point, if it cuts there. -/
def Visit.event? : Visit -> Option Event
  | .field _ => none
  | .cut base name => some (.extensionCycle base name)

/-- The fields of an interface are those that its visits meet. -/
theorem flatten_eq_filterMap (interfaces : List Interface) (interface : Interface) :
    flatten interfaces interface = (visit interfaces interface).filterMap Visit.field? := by
  rw [flatten]
  congr 1

/-- What is reported for an interface is what its visits report. -/
theorem events_eq_filterMap (interfaces : List Interface) (interface : Interface) :
    events interfaces interface = (visit interfaces interface).filterMap Visit.event? := by
  rw [events]
  congr 1

/-- A path leads from an interface to another one. Its steps are given by positions in lists
of bases, and `names` are the bases that stand there. -/
inductive Leads (interfaces : List Interface) : Interface -> (path : List Nat) ->
    (names : List String) -> (last : Interface) -> Prop where
  | here {interface} : Leads interfaces interface [] [] interface
  | further {interface position base parent path names last}
      (named : interface.bases[position]? = some base)
      (resolved : resolve? interfaces base = some parent)
      (beyond : Leads interfaces parent path names last) :
      Leads interfaces interface (position :: path) (base :: names) last

/-- What stands at the end of a path. -/
inductive Stop where
  | reached (interface : Interface)
  /-- The base would repeat a name of the path to the interface called `name`. -/
  | cut (base name : String)
deriving Repr, DecidableEq

namespace Stop

/-- What a walk meets at the end of a path. -/
def visits : Stop -> List Visit
  | reached interface => interface.fieldNames.map .field
  | cut base name => [.cut base name]

/-- The fields that the end of a path contributes. -/
def fieldNames : Stop -> List String
  | reached interface => interface.fieldNames
  | cut .. => []

/-- The warning that the end of a path leads to. -/
def event? : Stop -> Option Event
  | reached _ => none
  | cut base name => some (.extensionCycle base name)

/-- A stop meets the fields of its interface. -/
theorem filterMap_field?_visits (stop : Stop) :
    stop.visits.filterMap Visit.field? = stop.fieldNames := by
  cases stop with
  | reached interface => exact filterMap_field?_map_field interface.fieldNames
  | cut base name => rfl

/-- A stop reports at most one event. -/
theorem filterMap_event?_visits (stop : Stop) :
    stop.visits.filterMap Visit.event? = stop.event?.toList := by
  cases stop with
  | reached interface => simp [visits, event?, Visit.event?]
  | cut base name => rfl

end Stop

/-- The names of a path are fresh if they are distinct and none of them is being visited. -/
def AreFresh (visiting names : List String) : Prop :=
  names.Nodup ∧ ∀ name ∈ names, name ∉ visiting

/-- Without names none was visited. -/
theorem areFresh_nil (visiting : List String) : AreFresh visiting [] :=
  ⟨.nil, nofun⟩

/-- A fresh name can be visited before the others. -/
theorem areFresh_cons {visiting names : List String} {name : String} :
    AreFresh visiting (name :: names) ↔ name ∉ visiting ∧ AreFresh (name :: visiting) names := by
  rw [AreFresh, AreFresh, List.nodup_cons, List.forall_mem_cons]
  simp only [List.mem_cons, not_or]
  constructor
  · rintro ⟨⟨notAgain, distinct⟩, fresh, othersFresh⟩
    refine ⟨fresh, distinct, fun other member => ⟨?_, othersFresh other member⟩⟩
    rintro rfl
    exact notAgain member
  · rintro ⟨fresh, distinct, othersFresh⟩
    refine ⟨⟨fun member => ?_, distinct⟩, fresh, fun other member => (othersFresh other member).2⟩
    exact (othersFresh name member).1 rfl

/-- The stops of the paths from an interface while some names are being visited. A path
reaches its end if its names are fresh, and such a path is cut at a known base that is one of
its names or is being visited. -/
inductive IsStop (interfaces : List Interface) (visiting : List String) (start : Interface) :
    (path : List Nat) -> Stop -> Prop where
  | reached {path names last} (leads : Leads interfaces start path names last)
      (fresh : AreFresh visiting names) : IsStop interfaces visiting start path (.reached last)
  | cut {path names last position base parent}
      (leads : Leads interfaces start path names last) (fresh : AreFresh visiting names)
      (named : last.bases[position]? = some base)
      (resolved : resolve? interfaces base = some parent)
      (repeated : base ∈ names ++ visiting) :
      IsStop interfaces visiting start (path ++ [position]) (.cut base last.name)

variable {interfaces : List Interface} {visiting : List String} {start : Interface}
  {position first : Nat} {path : List Nat} {stop : Stop}

/-- The path without steps reaches the interface that it starts from. -/
theorem isStop_nil : IsStop interfaces visiting start [] stop ↔ stop = .reached start := by
  constructor
  · generalize noSteps : ([] : List Nat) = path
    intro isStop
    cases isStop with
    | reached leads fresh =>
        subst noSteps
        cases leads
        rfl
    | cut => simp at noSteps
  · rintro rfl
    exact .reached .here (areFresh_nil visiting)

/-- A path with a first step stops at once, if the base is being visited, and if not, where
the rest of it stops on its way from the interface that the base refers to. -/
theorem isStop_cons :
    IsStop interfaces visiting start (position :: path) stop ↔
      ∃ base parent, start.bases[position]? = some base ∧ resolve? interfaces base = some parent ∧
        (base ∈ visiting ∧ path = [] ∧ stop = .cut base start.name ∨
          base ∉ visiting ∧ IsStop interfaces (base :: visiting) parent path stop) := by
  constructor
  · generalize steps : position :: path = whole
    intro isStop
    cases isStop with
    | reached leads fresh =>
        subst steps
        cases leads with
        | further named resolved beyond =>
            obtain ⟨baseFresh, othersFresh⟩ := areFresh_cons.mp fresh
            exact ⟨_, _, named, resolved, .inr ⟨baseFresh, .reached beyond othersFresh⟩⟩
    | cut leads fresh lastNamed lastResolved repeated =>
        cases leads with
        | here =>
            obtain ⟨rfl, rfl⟩ := List.cons.inj steps
            exact ⟨_, _, lastNamed, lastResolved, .inl ⟨repeated, rfl, rfl⟩⟩
        | further named resolved beyond =>
            obtain ⟨rfl, rfl⟩ := List.cons.inj steps
            obtain ⟨baseFresh, othersFresh⟩ := areFresh_cons.mp fresh
            refine ⟨_, _, named, resolved,
              .inr ⟨baseFresh, .cut beyond othersFresh lastNamed lastResolved ?_⟩⟩
            exact List.perm_middle.mem_iff.mpr repeated
  · rintro ⟨base, parent, named, resolved, ⟨visited, rfl, rfl⟩ | ⟨baseFresh, beyond⟩⟩
    · exact .cut .here (areFresh_nil visiting) named resolved visited
    · cases beyond with
      | reached leads fresh =>
          exact .reached (.further named resolved leads) (areFresh_cons.mpr ⟨baseFresh, fresh⟩)
      | cut leads fresh lastNamed lastResolved repeated =>
          refine .cut (.further named resolved leads) (areFresh_cons.mpr ⟨baseFresh, fresh⟩)
            lastNamed lastResolved ?_
          exact List.perm_middle.mem_iff.mp repeated

/-! ## Listing the stops -/

/-- Stops with their paths, in depth-first order: a path comes before all that continue it,
and the paths through a base come before those through a later base. -/
def InOrder (stops : List (List Nat × Stop)) : Prop :=
  stops.Pairwise fun earlier later => List.Lex (· < ·) earlier.1 later.1

/-- Stops are listed if they are all there, each once, in order. -/
structure Lists (interfaces : List Interface) (visiting : List String) (start : Interface)
    (stops : List (List Nat × Stop)) : Prop where
  inOrder : InOrder stops
  complete : ∀ path stop, (path, stop) ∈ stops ↔ IsStop interfaces visiting start path stop

/-- The stops are listed of the paths whose first step is at a position or behind it. -/
structure ListsFrom (interfaces : List Interface) (visiting : List String) (start : Interface)
    (first : Nat) (stops : List (List Nat × Stop)) : Prop where
  inOrder : InOrder stops
  nil_notMem : ∀ stop, ([], stop) ∉ stops
  complete : ∀ position path stop, (position :: path, stop) ∈ stops ↔
    first ≤ position ∧ IsStop interfaces visiting start (position :: path) stop

/-- The interface itself is the first stop, in front of those behind its bases. -/
theorem ListsFrom.lists {stops : List (List Nat × Stop)}
    (lists : ListsFrom interfaces visiting start 0 stops) :
    Lists interfaces visiting start (([], .reached start) :: stops) where
  inOrder := by
    refine List.pairwise_cons.mpr ⟨?_, lists.inOrder⟩
    rintro ⟨path, stop⟩ member
    cases path with
    | nil => exact absurd member (lists.nil_notMem stop)
    | cons position path => exact .nil
  complete := by
    intro path stop
    cases path with
    | nil => simp [isStop_nil, lists.nil_notMem]
    | cons position path => simp [lists.complete]

/-- Behind the last base there is no stop. -/
theorem listsFrom_nil (noMore : start.bases[first]? = none) :
    ListsFrom interfaces visiting start first [] where
  inOrder := .nil
  nil_notMem := nofun
  complete := by
    intro position path stop
    simp only [List.not_mem_nil, false_iff, not_and, isStop_cons]
    rintro notBefore ⟨base, parent, named, -⟩
    have := List.getElem?_eq_none_iff.mp noMore
    have : position < start.bases.length := (List.getElem?_eq_some_iff.mp named).1
    omega

/-- The stops of the paths through one base come in front of those through the later ones. -/
theorem ListsFrom.prepend {stops : List (List Nat × Stop)}
    (lists : ListsFrom interfaces visiting start (first + 1) stops)
    (here : List (List Nat × Stop)) (inOrder : InOrder here)
    (complete : ∀ path stop,
      (path, stop) ∈ here ↔ IsStop interfaces visiting start (first :: path) stop) :
    ListsFrom interfaces visiting start first
      (here.map (fun (path, stop) => (first :: path, stop)) ++ stops) where
  inOrder := by
    refine List.pairwise_append.mpr ⟨?_, lists.inOrder, ?_⟩
    · refine List.pairwise_map.mpr (inOrder.imp ?_)
      intro earlier later before
      exact .cons before
    · rintro _ isHere ⟨path, stop⟩ isLater
      obtain ⟨⟨further, other⟩, -, rfl⟩ := List.mem_map.mp isHere
      cases path with
      | nil => exact absurd isLater (lists.nil_notMem stop)
      | cons position path => exact .rel ((lists.complete position path stop).mp isLater).1
  nil_notMem := by
    intro stop member
    rcases List.mem_append.mp member with isHere | isLater
    · obtain ⟨_, -, same⟩ := List.mem_map.mp isHere
      cases same
    · exact lists.nil_notMem stop isLater
  complete := by
    intro position path stop
    have isHere : (position :: path, stop) ∈ here.map (fun (path, stop) => (first :: path, stop)) ↔
        first = position ∧ IsStop interfaces visiting start (first :: path) stop := by
      rw [← complete, List.mem_map]
      constructor
      · rintro ⟨⟨_, _⟩, member, ⟨⟩⟩
        exact ⟨rfl, member⟩
      · rintro ⟨rfl, member⟩
        exact ⟨_, member, rfl⟩
    rw [List.mem_append, isHere, lists.complete]
    constructor
    · rintro (⟨rfl, isStop⟩ | ⟨after, isStop⟩)
      · exact ⟨Nat.le_refl _, isStop⟩
      · exact ⟨by omega, isStop⟩
    · rintro ⟨notBefore, isStop⟩
      by_cases same : first = position
      · subst same
        exact .inl ⟨rfl, isStop⟩
      · exact .inr ⟨by omega, isStop⟩

/-- What the walk along the bases from a position on meets is what stands at the stops of the
paths that begin there. -/
theorem exists_listsFrom (interfaces : List Interface) (visiting : List String) (name : String)
    (bases : List String) (start : Interface) (first : Nat) (called : start.name = name)
    (remaining : start.bases.drop first = bases) :
    ∃ stops, ListsFrom interfaces visiting start first stops ∧
      visitBases interfaces visiting name bases = stops.flatMap (·.2.visits) := by
  induction visiting, name, bases using visitBases.induct interfaces generalizing start first with
  | case1 visiting name =>
      have noMore : start.bases[first]? = none := by
        rw [List.getElem?_eq_none_iff]
        exact List.drop_eq_nil_iff.mp remaining
      refine ⟨[], listsFrom_nil noMore, ?_⟩
      rw [visitBases, List.flatMap_nil]
  | case2 visiting name base others parentHypothesis othersHypothesis =>
      have named : start.bases[first]? = some base := by
        rw [← List.head?_drop, remaining, List.head?_cons]
      have othersRemain : start.bases.drop (first + 1) = others := by
        rw [← List.tail_drop, remaining, List.tail_cons]
      obtain ⟨stops, lists, met⟩ := othersHypothesis start (first + 1) called othersRemain
      cases resolved : resolve? interfaces base with
      | none =>
          refine ⟨_, lists.prepend [] .nil fun path stop => ?_, ?_⟩
          · simp [isStop_cons, named, resolved]
          · rw [visitBases_cons_of_unknown resolved, met]
            rfl
      | some parent =>
          by_cases visited : base ∈ visiting
          · refine ⟨_, lists.prepend [([], .cut base start.name)] (List.pairwise_singleton _ _)
              fun path stop => ?_, ?_⟩
            · simp [isStop_cons, named, resolved, visited]
            · rw [visitBases_cons_of_visited resolved visited, met, called]
              rfl
          · obtain ⟨inner, innerLists, innerMet⟩ :=
              parentHypothesis parent resolved (by simpa using visited) parent 0 rfl rfl
            refine ⟨_, lists.prepend _ innerLists.lists.inOrder fun path stop => ?_, ?_⟩
            · simp [isStop_cons, named, resolved, visited, innerLists.lists.complete]
            · rw [visitBases_cons_of_fresh resolved visited, met, innerMet]
              simp [List.flatMap_map, Stop.visits]

/-- The walk from an interface meets what stands at the stops of all its paths. -/
theorem exists_lists (interfaces : List Interface) (interface : Interface) :
    ∃ stops, Lists interfaces [interface.name] interface stops ∧
      visit interfaces interface = stops.flatMap (·.2.visits) := by
  obtain ⟨stops, lists, met⟩ := exists_listsFrom interfaces [interface.name] interface.name
    interface.bases interface 0 rfl List.drop_zero
  exact ⟨_, lists.lists, by rw [visit, met]; rfl⟩

/-- Flattening an interface ends, whatever the bases of the interfaces are: there is a walk
with a stack to its end, and each such walk hands its stack back at every call and never has a
name on it twice. The fields are those of the interfaces that paths without repeated names
reach, in depth-first order, and there is one warning for each base that would repeat a name
of the path to it. -/
theorem flatten_follows_paths (interfaces : List Interface) (interface : Interface) :
    (∃ met calls left,
      Walks interfaces [interface.name] interface.name interface.bases met calls left) ∧
    (∀ met calls left,
      Walks interfaces [interface.name] interface.name interface.bases met calls left ->
        (∀ call ∈ ⟨[interface.name], left⟩ :: calls, call.IsSound) ∧
          visit interfaces interface = interface.fieldNames.map .field ++ met) ∧
    ∃ stops, Lists interfaces [interface.name] interface stops ∧
      flatten interfaces interface = stops.flatMap (·.2.fieldNames) ∧
      events interfaces interface = stops.filterMap (·.2.event?) := by
  refine ⟨?_, ?_, ?_⟩
  · obtain ⟨calls, walks⟩ :=
      exists_walks interfaces [interface.name] interface.name interface.bases
    exact ⟨_, calls, _, walks⟩
  · intro met calls left walks
    have distinct : [interface.name].Nodup := List.pairwise_singleton _ _
    refine ⟨List.forall_mem_cons.mpr ⟨⟨distinct, walks.left_eq⟩, ?_⟩, ?_⟩
    · exact walks.isSound_of_mem_calls distinct
    · rw [visit, walks.met_eq]
  · obtain ⟨stops, lists, met⟩ := exists_lists interfaces interface
    refine ⟨stops, lists, ?_, ?_⟩
    · simp only [flatten_eq_filterMap, met, List.filterMap_flatMap, Stop.filterMap_field?_visits]
    · simp only [events_eq_filterMap, met, List.filterMap_flatMap, Stop.filterMap_event?_visits]
      exact (List.filterMap_eq_flatMap_toList _ _).symm

-- Two paths lead to `D`, and the base `A` of `C` is cut; `Missing` is not there to be followed.
example :
    let interfaces : List Interface :=
      [{ name := "A", bases := ["B", "Missing", "C"]
         properties := [{ name := "a?", type := .base "int" }] },
        { name := "B", bases := ["D"] },
        { name := "C", bases := ["A", "D"] },
        { name := "D", properties := [{ name := "d", type := .base "int" }] },
        { name := "D", properties := [{ name := "shadowed", type := .base "int" }] }]
    interfaces.head?.map (flatten interfaces) = some ["a", "d", "d"] ∧
      interfaces.head?.map (events interfaces) = some [.extensionCycle "A" "C"] := by
  cbv

end ProtocolHeaders.Inheritance
