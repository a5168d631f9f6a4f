import ProtocolHeaders.Proofs.Inheritance.Ancestors

/-!
# What is inherited through each base

A walk along several bases consists of a walk along each of them. The more names are being
visited, the more a walk cuts, and the fewer fields it meets; so through one base an interface
never inherits more than what flattening the interface behind it lists, and in no other order.
-/

namespace ProtocolHeaders.Inheritance

variable {interfaces : List Interface} {interface parent : Interface} {base : String}

/-- A walk along several bases is a walk along the first and one along the others. -/
theorem visitBases_cons (interfaces : List Interface) (visiting : List String)
    (name base : String) (others : List String) :
    visitBases interfaces visiting name (base :: others) =
      visitBases interfaces visiting name [base] ++ visitBases interfaces visiting name others := by
  cases resolved : resolve? interfaces base with
  | none =>
      rw [visitBases_cons_of_unknown resolved, visitBases_cons_of_unknown resolved, visitBases_nil,
        List.nil_append]
  | some parent =>
      by_cases visited : base ∈ visiting
      · rw [visitBases_cons_of_visited resolved visited,
          visitBases_cons_of_visited resolved visited, visitBases_nil, List.singleton_append]
      · rw [visitBases_cons_of_fresh resolved visited,
          visitBases_cons_of_fresh resolved visited, visitBases_nil, List.append_nil]

/-- The field names that an interface has through one of its bases. -/
def inheritedThrough (interfaces : List Interface) (interface : Interface) (base : String) :
    List String :=
  (visitBases interfaces [interface.name] interface.name [base]).filterMap Visit.field?

/-- What an interface inherits is what it has through each of its bases. -/
theorem inherited_eq_flatMap (interfaces : List Interface) (interface : Interface) :
    inherited interfaces interface =
      interface.bases.flatMap (inheritedThrough interfaces interface) := by
  rw [inherited]
  induction interface.bases with
  | nil => rw [visitBases, List.filterMap_nil, List.flatMap_nil]
  | cons base others inductionHypothesis =>
      rw [visitBases_cons, List.filterMap_append, inductionHypothesis, List.flatMap_cons]
      rfl

/-- A walk meets fewer fields if more names are being visited, whoever the bases belong to. -/
theorem fields_sublist_of_subset (interfaces : List Interface) {fewer more : List String}
    (subset : fewer ⊆ more) (name other : String) (bases : List String) :
    ((visitBases interfaces more other bases).filterMap Visit.field?).Sublist
      ((visitBases interfaces fewer name bases).filterMap Visit.field?) := by
  induction fewer, name, bases using visitBases.induct interfaces generalizing more other with
  | case1 visiting name =>
      rw [visitBases]
      exact List.nil_sublist _
  | case2 visiting name base others parentHypothesis othersHypothesis =>
      have tail := othersHypothesis subset other
      cases resolved : resolve? interfaces base with
      | none => rwa [visitBases_cons_of_unknown resolved, visitBases_cons_of_unknown resolved]
      | some parent =>
          by_cases visited : base ∈ visiting
          · rwa [visitBases_cons_of_visited resolved visited,
              visitBases_cons_of_visited resolved (subset visited)]
          · rw [visitBases_cons_of_fresh resolved visited, List.filterMap_append]
            by_cases visitedNow : base ∈ more
            · rw [visitBases_cons_of_visited resolved visitedNow]
              exact tail.trans (List.sublist_append_right _ _)
            · rw [visitBases_cons_of_fresh resolved visitedNow, List.filterMap_append,
                List.filterMap_append, List.filterMap_append]
              have inner := parentHypothesis parent resolved (by simpa using visited)
                (List.cons_subset_cons base subset) parent.name
              exact ((List.Sublist.refl _).append inner).append tail

/-- Through a known base an interface has only what flattening lists for the interface behind
the base. -/
theorem inheritedThrough_sublist_flatten (resolved : resolve? interfaces base = some parent) :
    (inheritedThrough interfaces interface base).Sublist (flatten interfaces parent) := by
  have fields := fields_sublist_of_subset interfaces (List.nil_subset [interface.name])
    interface.name interface.name [base]
  rw [visitBases_cons_of_fresh resolved List.not_mem_nil, visitBases, List.append_nil,
    List.filterMap_append, filterMap_field?_map_field] at fields
  obtain rfl := name_of_resolve? resolved
  rwa [flatten_eq, inherited]

end ProtocolHeaders.Inheritance
