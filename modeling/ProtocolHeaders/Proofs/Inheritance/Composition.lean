import ProtocolHeaders.Header.Bindings
import ProtocolHeaders.Proofs.Inheritance.Branches
import ProtocolHeaders.Proofs.Inheritance.Reach

/-!
# Fields put together from those of the bases

The fields of a structure should be its own ones and then, base by base, what flattening lists
for each base. A walk along the bases yields exactly that as long as it does not come back to
the name of the structure that it starts from. In a model whose interfaces extend each other
without a cycle it can only come back to a name if two structures share it: a structure inside
another, or a later namesake, that inherits from the top-level interface of its own name. The
walk takes that interface for the structure itself, warns of a cycle that is not there, and
leaves its fields out.
-/

namespace ProtocolHeaders.Inheritance

open Header.Bindings (Bound boundInAll)

variable {interfaces : List Interface} {interface parent ancestor : Interface}
  {visiting bases others : List String} {base name : String}

/-! ## Ancestors -/

/-- Without bases there is no ancestor. -/
theorem not_isAncestor_nil : ¬ IsAncestor interfaces [] ancestor := by
  intro isAncestor
  cases isAncestor with
  | parent named _ => cases named
  | further named _ _ => cases named

/-- An ancestor is what the first base refers to, an ancestor of that, or one through the other
bases. -/
theorem isAncestor_cons :
    IsAncestor interfaces (base :: others) ancestor ↔
      (∃ parent, resolve? interfaces base = some parent ∧
        (ancestor = parent ∨ IsAncestor interfaces parent.bases ancestor)) ∨
      IsAncestor interfaces others ancestor := by
  constructor
  · intro isAncestor
    cases isAncestor with
    | parent named resolved =>
        rcases List.mem_cons.mp named with rfl | later
        · exact .inl ⟨_, resolved, .inl rfl⟩
        · exact .inr (.parent later resolved)
    | further named resolved beyond =>
        rcases List.mem_cons.mp named with rfl | later
        · exact .inl ⟨_, resolved, .inr beyond⟩
        · exact .inr (.further later resolved beyond)
  · rintro (⟨parent, resolved, rfl | beyond⟩ | later)
    · exact .parent List.mem_cons_self resolved
    · exact .further List.mem_cons_self resolved beyond
    · exact later.mono (List.subset_cons_self base others)

/-- The name of an ancestor refers to it. -/
theorem IsAncestor.resolve?_name (isAncestor : IsAncestor interfaces bases ancestor) :
    resolve? interfaces ancestor.name = some ancestor := by
  induction isAncestor with
  | parent _ resolved =>
      obtain rfl := name_of_resolve? resolved
      exact resolved
  | further _ _ _ inductionHypothesis => exact inductionHypothesis

/-- No top-level interface is an ancestor of itself. -/
def IsAcyclic (interfaces : List Interface) : Prop :=
  ∀ interface ∈ interfaces, ¬ IsAncestor interfaces interface.bases interface

/-- Interfaces that rank above what their bases refer to extend each other without a cycle. -/
theorem isAcyclic_of_rank (rank : Interface -> Nat)
    (descends : ∀ interface ∈ interfaces, ∀ base ∈ interface.bases,
      ∀ parent ∈ resolve? interfaces base, rank parent < rank interface) :
    IsAcyclic interfaces := by
  have below : ∀ {bases ancestor}, IsAncestor interfaces bases ancestor ->
      ∀ bound, (∀ base ∈ bases, ∀ parent ∈ resolve? interfaces base, rank parent < bound) ->
        rank ancestor < bound := by
    intro bases ancestor isAncestor
    induction isAncestor with
    | parent named resolved => exact fun bound bounded => bounded _ named _ resolved
    | further named resolved _ inductionHypothesis =>
        intro bound bounded
        have ofParent := inductionHypothesis _ (descends _ (mem_of_resolve? resolved))
        exact Nat.lt_trans ofParent (bounded _ named _ resolved)
  intro interface member isAncestor
  exact Nat.lt_irrefl _ (below isAncestor _ (descends interface member))

/-- Without a cycle, an ancestor of what a name refers to has another name. -/
theorem IsAcyclic.name_ne (acyclic : IsAcyclic interfaces)
    (resolved : resolve? interfaces name = some parent)
    (isAncestor : IsAncestor interfaces parent.bases ancestor) : ancestor.name ≠ name := by
  rintro rfl
  obtain rfl : ancestor = parent :=
    Option.some.inj (isAncestor.resolve?_name.symm.trans resolved)
  exact acyclic ancestor (mem_of_resolve? resolved) isAncestor

/-! ## Walks that are not cut -/

/-- What a walk meets depends only on which names of ancestors are being visited. -/
theorem visitBases_congr (interfaces : List Interface) {first second : List String}
    (name : String) (bases : List String)
    (agree : ∀ ancestor, IsAncestor interfaces bases ancestor ->
      (ancestor.name ∈ first ↔ ancestor.name ∈ second)) :
    visitBases interfaces first name bases = visitBases interfaces second name bases := by
  induction first, name, bases using visitBases.induct interfaces generalizing second with
  | case1 visiting name => rw [visitBases_nil, visitBases_nil]
  | case2 visiting name base others parentHypothesis othersHypothesis =>
      have tail := othersHypothesis fun ancestor isAncestor =>
        agree ancestor (isAncestor.mono (List.subset_cons_self base others))
      cases resolved : resolve? interfaces base with
      | none => rw [visitBases_cons_of_unknown resolved, visitBases_cons_of_unknown resolved, tail]
      | some parent =>
          have baseAgrees : base ∈ visiting ↔ base ∈ second := by
            have ofParent := agree parent (.parent List.mem_cons_self resolved)
            rwa [name_of_resolve? resolved] at ofParent
          by_cases visited : base ∈ visiting
          · rw [visitBases_cons_of_visited resolved visited,
              visitBases_cons_of_visited resolved (baseAgrees.mp visited), tail]
          · have innerAgree : ∀ ancestor, IsAncestor interfaces parent.bases ancestor ->
                (ancestor.name ∈ base :: visiting ↔ ancestor.name ∈ base :: second) := by
              intro ancestor isAncestor
              have further := agree ancestor (.further List.mem_cons_self resolved isAncestor)
              rw [List.mem_cons, List.mem_cons, further]
            have inner := parentHypothesis parent resolved (by simpa using visited) innerAgree
            rw [visitBases_cons_of_fresh resolved visited,
              visitBases_cons_of_fresh resolved (mt baseAgrees.mpr visited), inner, tail]

theorem filterMap_event?_map_field (names : List String) :
    (names.map Visit.field).filterMap Visit.event? = [] := by
  simp [Visit.event?]

/-- Without a cycle, a walk is cut nowhere exactly if no ancestor is being visited. -/
theorem filterMap_event?_visitBases_eq_nil_iff (acyclic : IsAcyclic interfaces)
    (visiting : List String) (name : String) (bases : List String) :
    (visitBases interfaces visiting name bases).filterMap Visit.event? = [] ↔
      ∀ ancestor, IsAncestor interfaces bases ancestor -> ancestor.name ∉ visiting := by
  induction visiting, name, bases using visitBases.induct interfaces with
  | case1 visiting name =>
      rw [visitBases_nil]
      exact ⟨fun _ _ isAncestor => absurd isAncestor not_isAncestor_nil, fun _ => rfl⟩
  | case2 visiting name base others parentHypothesis othersHypothesis =>
      cases resolved : resolve? interfaces base with
      | none =>
          rw [visitBases_cons_of_unknown resolved, othersHypothesis]
          simp [isAncestor_cons, resolved]
      | some parent =>
          have named := name_of_resolve? resolved
          by_cases visited : base ∈ visiting
          · rw [visitBases_cons_of_visited resolved visited]
            refine iff_of_false (by simp [Visit.event?]) fun apart => ?_
            exact apart parent (.parent List.mem_cons_self resolved) (named.symm ▸ visited)
          · have inner := parentHypothesis parent resolved (by simpa using visited)
            rw [visitBases_cons_of_fresh resolved visited, List.filterMap_append,
              List.filterMap_append, filterMap_event?_map_field, List.nil_append,
              List.append_eq_nil_iff, inner, othersHypothesis]
            constructor
            · rintro ⟨innerApart, othersApart⟩ ancestor isAncestor
              rcases isAncestor_cons.mp isAncestor with ⟨other, again, rfl | beyond⟩ | later
              · rw [name_of_resolve? again]
                exact visited
              · obtain rfl : parent = other := Option.some.inj (resolved.symm.trans again)
                exact fun member => innerApart ancestor beyond (List.mem_cons_of_mem base member)
              · exact othersApart ancestor later
            · intro apart
              refine ⟨fun ancestor isAncestor => ?_, fun ancestor isAncestor => ?_⟩
              · rw [List.mem_cons, not_or]
                exact ⟨acyclic.name_ne resolved isAncestor,
                  apart ancestor (.further List.mem_cons_self resolved isAncestor)⟩
              · exact apart ancestor (isAncestor.mono (List.subset_cons_self base others))

/-! ## Composition -/

/-- What flattening lists for the interface that a base name refers to, if there is one. -/
def baseFields (interfaces : List Interface) (base : String) : List String :=
  match resolve? interfaces base with
  | none => []
  | some parent => flatten interfaces parent

/-- The fields of a structure are its own ones and then those of its bases, and the walk along
the bases is cut nowhere. -/
structure Composes (interfaces : List Interface) (interface : Interface) : Prop where
  fields : flatten interfaces interface =
    interface.fieldNames ++ interface.bases.flatMap (baseFields interfaces)
  uncut : events interfaces interface = []

/-- No ancestor of a structure has its name. -/
def IsNamedApart (interfaces : List Interface) (interface : Interface) : Prop :=
  ∀ ancestor, IsAncestor interfaces interface.bases ancestor -> ancestor.name ≠ interface.name

/-- Through a base, a structure with a name of its own among its ancestors has all that
flattening lists for the base. -/
theorem inheritedThrough_eq_baseFields (apart : IsNamedApart interfaces interface)
    (member : base ∈ interface.bases) :
    inheritedThrough interfaces interface base = baseFields interfaces base := by
  rw [inheritedThrough, baseFields]
  cases resolved : resolve? interfaces base with
  | none => rw [visitBases_cons_of_unknown resolved, visitBases_nil, List.filterMap_nil]
  | some parent =>
      obtain rfl := name_of_resolve? resolved
      have fresh : parent.name ∉ [interface.name] :=
        List.mem_singleton.not.mpr (apart parent (.parent member resolved))
      have sameWalk : visitBases interfaces [parent.name, interface.name] parent.name parent.bases =
          visitBases interfaces [parent.name] parent.name parent.bases := by
        refine visitBases_congr interfaces _ _ fun ancestor isAncestor => ?_
        have differs := apart ancestor (.further member resolved isAncestor)
        simp [differs]
      rw [visitBases_cons_of_fresh resolved fresh, visitBases_nil, List.append_nil, sameWalk,
        List.filterMap_append, filterMap_field?_map_field]
      exact (flatten_eq interfaces parent).symm

/-- The walk from a structure is cut nowhere exactly if no ancestor has its name. -/
theorem events_eq_nil_iff (acyclic : IsAcyclic interfaces) (interface : Interface) :
    events interfaces interface = [] ↔ IsNamedApart interfaces interface := by
  rw [events_eq_filterMap, visit, List.filterMap_append, filterMap_event?_map_field,
    List.nil_append, filterMap_event?_visitBases_eq_nil_iff acyclic]
  simp only [List.mem_singleton, IsNamedApart]

/-- Without a cycle, no ancestor has the name of an interface that owns its name. -/
theorem OwnsName.isNamedApart (owned : OwnsName interfaces interface)
    (acyclic : IsAcyclic interfaces) : IsNamedApart interfaces interface := by
  intro ancestor isAncestor
  rcases owned with resolved | unknown
  · exact acyclic.name_ne resolved isAncestor
  · intro same
    have found := isAncestor.resolve?_name
    rw [same, unknown] at found
    cases found

/-- If the top-level interfaces extend each other without a cycle, the fields of a structure
anywhere are put together from those of its bases without a warning exactly if no ancestor has
its name. So they are for every structure that owns its name. -/
theorem flatten_composes_iff (acyclic : IsAcyclic interfaces) (interface : Interface) :
    (Composes interfaces interface ↔ IsNamedApart interfaces interface) ∧
      (OwnsName interfaces interface -> Composes interfaces interface) := by
  have composesIff : Composes interfaces interface ↔ IsNamedApart interfaces interface := by
    refine ⟨fun composes => (events_eq_nil_iff acyclic interface).mp composes.uncut,
      fun apart => ⟨?_, (events_eq_nil_iff acyclic interface).mpr apart⟩⟩
    rw [flatten_eq, inherited_eq_flatMap]
    congr 1
    exact List.flatMap_congr fun base member => inheritedThrough_eq_baseFields apart member
  exact ⟨composesIff, fun owned => composesIff.mpr (owned.isNamedApart acyclic)⟩

/-- A top-level interface that others extend. -/
def rootInterface : Interface :=
  { name := "Root", properties := [{ name := "id", type := .base "int" }] }

/-- An interface that extends it, with a base that is not there. -/
def leftInterface : Interface :=
  { name := "Left", bases := ["Missing", "Root"]
    properties := [{ name := "left?", type := .base "int" }] }

/-- Another interface that extends it. -/
def rightInterface : Interface :=
  { name := "Right", bases := ["Root"], properties := [{ name := "right", type := .base "int" }] }

/-- A structure inside another that has the name of an interface it does not inherit from. -/
def innerLeft : Interface :=
  { name := "Left", bases := ["Right", "Missing", "Root"]
    properties := [{ name := "inner", type := .base "int" }] }

/-- A structure inside another that has the name of an interface it inherits from. -/
def innerRoot : Interface :=
  { name := "Root", bases := ["Left", "Right"] }

/-- All of them. -/
def diamondInterfaces : List Interface :=
  [rootInterface, leftInterface, rightInterface,
    { name := "Outer", children := [innerLeft, innerRoot] }]

/-- Of two structures with names of top-level interfaces, one is put together and one is not. -/
theorem inner_namesake_composes :
    IsAcyclic diamondInterfaces ∧ Composes diamondInterfaces innerLeft ∧
      ¬ Composes diamondInterfaces innerRoot := by
  have acyclic : IsAcyclic diamondInterfaces :=
    isAcyclic_of_rank (fun interface => interface.bases.length) (by decide +kernel)
  have missing : resolve? diamondInterfaces "Missing" = none := by decide +kernel
  have root : resolve? diamondInterfaces "Root" = some rootInterface := by decide +kernel
  have right : resolve? diamondInterfaces "Right" = some rightInterface := by decide +kernel
  have left : resolve? diamondInterfaces "Left" = some leftInterface := by decide +kernel
  refine ⟨acyclic, (flatten_composes_iff acyclic innerLeft).1.mpr ?_, ?_⟩
  · intro ancestor isAncestor
    simp only [innerLeft, isAncestor_cons, right, rightInterface, Option.some.injEq,
      exists_eq_left', root, rootInterface, not_isAncestor_nil, or_false, missing, reduceCtorEq,
      false_and, exists_const, false_or, or_self_right] at isAncestor
    rcases isAncestor with rfl | rfl <;> decide
  · rw [(flatten_composes_iff acyclic innerRoot).1]
    intro apart
    have throughLeft : IsAncestor diamondInterfaces innerRoot.bases rootInterface :=
      .further List.mem_cons_self left (.parent (by simp [leftInterface]) root)
    exact apart rootInterface throughLeft rfl

/-- A structure inside another that has the name of an interface behind its base. -/
def nestedOptions : Bound :=
  ⟨["Server", "Options"],
    { name := "Options", bases := ["HoverOptions"]
      properties := [{ name := "port", type := .base "int" }] }⟩

/-- A model with this structure. -/
def nestedOptionsModel : Model :=
  { interfaces :=
      [{ name := "Options", properties := [{ name := "id", type := .base "int" }] },
        { name := "HoverOptions", bases := ["Options"]
          properties := [{ name := "hover", type := .base "bool" }] },
        { name := "Server", children := [nestedOptions.interface] }] }

/-- Though no top-level interface extends itself, a cycle is reported for a structure inside
another, and the field that its base inherits is missing from its binding. -/
theorem inherited_field_is_left_out :
    IsAcyclic nestedOptionsModel.interfaces ∧
      nestedOptions ∈ boundInAll {} [] nestedOptionsModel.interfaces ∧
      nestedOptions.binding {} nestedOptionsModel.interfaces =
        .fields "Server::Options" ["port", "hover"] ∧
      flatten nestedOptionsModel.interfaces nestedOptions.interface = ["port", "hover"] ∧
      nestedOptions.interface.fieldNames ++
        nestedOptions.interface.bases.flatMap (baseFields nestedOptionsModel.interfaces) =
          ["port", "hover", "id"] ∧
      events nestedOptionsModel.interfaces nestedOptions.interface =
        [.extensionCycle "Options" "HoverOptions"] := by
  have acyclic : IsAcyclic nestedOptionsModel.interfaces :=
    isAcyclic_of_rank (fun interface => interface.bases.length) (by decide +kernel)
  have bound : boundInAll {} [] nestedOptionsModel.interfaces =
      [⟨["Options"], nestedOptionsModel.interfaces[0]⟩,
        ⟨["HoverOptions"], nestedOptionsModel.interfaces[1]⟩, nestedOptions,
        ⟨["Server"], nestedOptionsModel.interfaces[2]⟩] := by cbv
  exact ⟨acyclic, by simp [bound], by cbv, by cbv, by cbv, by cbv⟩

end ProtocolHeaders.Inheritance
