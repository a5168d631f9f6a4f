import ProtocolHeaders.Inheritance

/-!
# Inherited fields come from ancestors

The ancestors of an interface are what its bases refer to, what their bases refer to, and
so on. A walk along the bases meets only fields of ancestors, whatever it cuts.
-/

namespace ProtocolHeaders.Inheritance

/-- The field that a walk meets at a point, if it does not cut there. -/
def Visit.field? : Visit -> Option String
  | .field name => some name
  | .cut .. => none

/-- Visits of fields meet just these fields. -/
theorem filterMap_field?_map_field (names : List String) :
    (names.map Visit.field).filterMap Visit.field? = names := by
  rw [List.filterMap_map]
  exact List.filterMap_some

/-- The field names that an interface has from others. -/
def inherited (interfaces : List Interface) (interface : Interface) : List String :=
  (visitBases interfaces [interface.name] interface.name interface.bases).filterMap Visit.field?

/-- The own field names come first, then the inherited ones. -/
theorem flatten_eq (interfaces : List Interface) (interface : Interface) :
    flatten interfaces interface = interface.fieldNames ++ inherited interfaces interface := by
  have parted : flatten interfaces interface =
      (visit interfaces interface).filterMap Visit.field? := by
    rw [flatten]
    congr 1
  rw [parted, visit, List.filterMap_append, filterMap_field?_map_field, inherited]

/-- A field is inherited if the visits of the bases meet it. -/
theorem mem_inherited {interfaces : List Interface} {interface : Interface} {name : String} :
    name ∈ inherited interfaces interface ↔
      .field name ∈ visitBases interfaces [interface.name] interface.name interface.bases := by
  rw [inherited, List.mem_filterMap]
  constructor
  · rintro ⟨met, member, isField⟩
    cases met with
    | field other =>
        obtain rfl : other = name := Option.some.inj isField
        exact member
    | cut base interface => cases isField
  · intro member
    exact ⟨_, member, rfl⟩

/-- The interfaces that base names lead to, directly or through further bases. -/
inductive IsAncestor (interfaces : List Interface) : List String -> Interface -> Prop where
  | parent {bases base parent} (named : base ∈ bases)
      (resolved : resolve? interfaces base = some parent) : IsAncestor interfaces bases parent
  | further {bases base parent ancestor} (named : base ∈ bases)
      (resolved : resolve? interfaces base = some parent)
      (beyond : IsAncestor interfaces parent.bases ancestor) :
      IsAncestor interfaces bases ancestor

/-- More bases have no fewer ancestors. -/
theorem IsAncestor.mono {interfaces : List Interface} {fewer more : List String}
    {ancestor : Interface} (isAncestor : IsAncestor interfaces fewer ancestor)
    (subset : fewer ⊆ more) : IsAncestor interfaces more ancestor := by
  cases isAncestor with
  | parent named resolved => exact .parent (subset named) resolved
  | further named resolved beyond => exact .further (subset named) resolved beyond

variable {interfaces : List Interface} {visiting bases others : List String}
  {name base field : String} {parent : Interface}

/-- Without bases nothing is visited. -/
theorem visitBases_nil (interfaces : List Interface) (visiting : List String) (name : String) :
    visitBases interfaces visiting name [] = [] := by
  rw [visitBases]

/-- An unknown base contributes nothing. -/
theorem visitBases_cons_of_unknown (unknown : resolve? interfaces base = none) :
    visitBases interfaces visiting name (base :: others) =
      visitBases interfaces visiting name others := by
  rw [visitBases]
  split <;> rename_i resolved
  · rfl
  · rw [unknown] at resolved
    cases resolved

/-- A base that is being visited is cut. -/
theorem visitBases_cons_of_visited (resolved : resolve? interfaces base = some parent)
    (visited : base ∈ visiting) :
    visitBases interfaces visiting name (base :: others) =
      .cut base name :: visitBases interfaces visiting name others := by
  have contained : visiting.contains base = true := by simpa using visited
  rw [visitBases]
  split <;> rename_i resolved'
  · rw [resolved] at resolved'
    cases resolved'
  · rw [if_pos contained]
    rfl

/-- Any other base contributes its own fields, then what its bases contribute. -/
theorem visitBases_cons_of_fresh (resolved : resolve? interfaces base = some parent)
    (fresh : base ∉ visiting) :
    visitBases interfaces visiting name (base :: others) =
      parent.fieldNames.map .field ++
        visitBases interfaces (base :: visiting) parent.name parent.bases ++
        visitBases interfaces visiting name others := by
  have notContained : ¬ visiting.contains base = true := by simpa using fresh
  rw [visitBases]
  split <;> rename_i resolved'
  · rw [resolved] at resolved'
    cases resolved'
  · rw [resolved] at resolved'
    cases resolved'
    rw [if_neg notContained]

/-- A walk along bases meets only fields of ancestors. -/
theorem exists_ancestor_of_mem_visitBases
    (met : .field field ∈ visitBases interfaces visiting name bases) :
    ∃ ancestor, IsAncestor interfaces bases ancestor ∧ field ∈ ancestor.fieldNames := by
  induction visiting, name, bases using visitBases.induct interfaces with
  | case1 visiting name => simp [visitBases] at met
  | case2 visiting name base others parentHypothesis othersHypothesis =>
      have ofOthers (metLater : .field field ∈ visitBases interfaces visiting name others) :
          ∃ ancestor, IsAncestor interfaces (base :: others) ancestor ∧
            field ∈ ancestor.fieldNames := by
        obtain ⟨ancestor, isAncestor, member⟩ := othersHypothesis metLater
        exact ⟨ancestor, isAncestor.mono (List.subset_cons_self base others), member⟩
      cases resolved : resolve? interfaces base with
      | none =>
          rw [visitBases_cons_of_unknown resolved] at met
          exact ofOthers met
      | some parent =>
          by_cases visited : base ∈ visiting
          · rw [visitBases_cons_of_visited resolved visited] at met
            exact ofOthers (by simpa using met)
          · rw [visitBases_cons_of_fresh resolved visited, List.mem_append, List.mem_append] at met
            rcases met with (own | beyond) | metLater
            · obtain ⟨other, member, isField⟩ := List.mem_map.mp own
              cases isField
              exact ⟨parent, .parent List.mem_cons_self resolved, member⟩
            · obtain ⟨ancestor, isAncestor, member⟩ :=
                parentHypothesis parent resolved (by simpa using visited) beyond
              exact ⟨ancestor, .further List.mem_cons_self resolved isAncestor, member⟩
            · exact ofOthers metLater

end ProtocolHeaders.Inheritance
