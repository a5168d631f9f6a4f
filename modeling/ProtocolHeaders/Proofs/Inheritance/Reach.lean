import ProtocolHeaders.Proofs.Inheritance.Paths

/-!
# Cutting cycles loses no field

A walk along bases cuts a path where a name would come up again, each path for itself. No
ancestor is lost by that: a path that meets a name twice can be shortened to what follows the
second time, since a name refers to the same interface wherever it stands. So each ancestor is
also reached on a path without repetitions, and flattening lists a field exactly if the
interface or one of its ancestors has it. This holds however the bases go round in circles, as
long as the interface that the walk starts from is the one that its own name refers to.
-/

namespace ProtocolHeaders.Inheritance

variable {interfaces : List Interface} {start last ancestor : Interface} {path : List Nat}
  {names before after : List String} {name field : String}

/-- An interface owns its name if no other interface is what the name refers to. -/
def OwnsName (interfaces : List Interface) (interface : Interface) : Prop :=
  resolve? interfaces interface.name = some interface ∨
    resolve? interfaces interface.name = none

instance (interfaces : List Interface) (interface : Interface) :
    Decidable (OwnsName interfaces interface) :=
  inferInstanceAs (Decidable (_ ∨ _))

/-- What a base name refers to owns that name. -/
theorem ownsName_of_resolve? (resolved : resolve? interfaces name = some start) :
    OwnsName interfaces start := by
  obtain rfl := name_of_resolve? resolved
  exact .inl resolved

/-- A path to an ancestor follows the bases that make it one. -/
theorem IsAncestor.exists_leads (isAncestor : IsAncestor interfaces start.bases ancestor) :
    ∃ path names, Leads interfaces start path names ancestor := by
  generalize ofStart : start.bases = bases at isAncestor
  induction isAncestor generalizing start with
  | parent named resolved =>
      subst ofStart
      obtain ⟨position, stands⟩ := List.mem_iff_getElem?.mp named
      exact ⟨_, _, .further stands resolved .here⟩
  | further named resolved _ inductionHypothesis =>
      subst ofStart
      obtain ⟨position, stands⟩ := List.mem_iff_getElem?.mp named
      obtain ⟨path, names, beyond⟩ := inductionHypothesis rfl
      exact ⟨_, _, .further stands resolved beyond⟩

/-- Behind a name that a path meets, the path leads on from what the name refers to. -/
theorem Leads.exists_behind (leads : Leads interfaces start path names last)
    (parted : names = before ++ name :: after) :
    ∃ middle rest, resolve? interfaces name = some middle ∧
      Leads interfaces middle rest after last := by
  induction leads generalizing before with
  | here => simp at parted
  | further _ resolved beyond inductionHypothesis =>
      cases before with
      | nil =>
          obtain ⟨rfl, rfl⟩ := List.cons.inj parted
          exact ⟨_, _, resolved, beyond⟩
      | cons earlier others => exact inductionHypothesis (List.cons.inj parted).2

/-- Names met on the way from a name are fresh if they are distinct and this name is not among
them. -/
theorem areFresh_singleton : AreFresh [name] names ↔ names.Nodup ∧ name ∉ names := by
  refine and_congr_right fun _ => ?_
  constructor
  · exact fun fresh member => fresh name member List.mem_cons_self
  · rintro absent other member
    rw [List.mem_singleton]
    rintro rfl
    exact absent member

/-- A path from an interface that owns its name can be shortened to one that meets no name
twice and does not come back to its start. -/
theorem Leads.exists_fresh (leads : Leads interfaces start path names last)
    (owned : OwnsName interfaces start) :
    ∃ shortened met, Leads interfaces start shortened met last ∧ AreFresh [start.name] met := by
  induction leads with
  | here => exact ⟨_, _, .here, areFresh_nil _⟩
  | @further start _ base parent _ _ last named resolved _ inductionHypothesis =>
      obtain ⟨rest, met, beyond, fresh⟩ := inductionHypothesis (ownsName_of_resolve? resolved)
      rw [name_of_resolve? resolved, areFresh_singleton, and_comm, ← List.nodup_cons] at fresh
      by_cases comesBack : start.name ∈ base :: met
      · -- From the last time that the path comes back, it is a path from the start.
        obtain ⟨before, after, parted⟩ := List.append_of_mem comesBack
        have whole : Leads interfaces start _ (base :: met) last := .further named resolved beyond
        obtain ⟨middle, shortened, again, leads⟩ := whole.exists_behind parted
        obtain rfl : start = middle := by
          rcases owned with same | unknown
          · exact Option.some.inj (same.symm.trans again)
          · rw [unknown] at again
            cases again
        rw [parted] at fresh
        have behind : (start.name :: after).Nodup := (List.nodup_append.mp fresh).2.1
        exact ⟨shortened, after, leads, areFresh_singleton.mpr (List.nodup_cons.mp behind).symm⟩
      · exact ⟨_, _, .further named resolved beyond, areFresh_singleton.mpr ⟨fresh, comesBack⟩⟩

/-- What a path without repetitions reaches contributes its fields. -/
theorem Leads.mem_flatten (leads : Leads interfaces start path names last)
    (fresh : AreFresh [start.name] names) (isField : field ∈ last.fieldNames) :
    field ∈ flatten interfaces start := by
  obtain ⟨stops, lists, met⟩ := exists_lists interfaces start
  rw [flatten_eq_filterMap, met, List.filterMap_flatMap, List.mem_flatMap]
  refine ⟨_, (lists.complete path (.reached last)).mpr (.reached leads fresh), ?_⟩
  rw [Stop.filterMap_field?_visits]
  exact isField

/-- Flattening an interface that owns its name lists the marker-stripped names of its own
properties and of those of all its ancestors, and no other names. -/
theorem mem_flatten_iff (owned : OwnsName interfaces start) :
    field ∈ flatten interfaces start ↔
      ∃ owner, (owner = start ∨ IsAncestor interfaces start.bases owner) ∧
        ∃ property ∈ owner.properties, Marker.strip property.name = field := by
  constructor
  · intro listed
    rw [flatten_eq, List.mem_append] at listed
    rcases listed with own | isInherited
    · exact ⟨start, .inl rfl, List.mem_map.mp own⟩
    · obtain ⟨ancestor, isAncestor, isField⟩ :=
        exists_ancestor_of_mem_visitBases (mem_inherited.mp isInherited)
      exact ⟨ancestor, .inr isAncestor, List.mem_map.mp isField⟩
  · rintro ⟨owner, rfl | isAncestor, hasField⟩
    · rw [flatten_eq]
      exact List.mem_append_left _ (List.mem_map.mpr hasField)
    · obtain ⟨path, names, leads⟩ := isAncestor.exists_leads
      obtain ⟨shortened, met, leads, fresh⟩ := leads.exists_fresh owned
      exact leads.mem_flatten fresh (List.mem_map.mpr hasField)

/-- An interface on a ring of three, whose bases go round in both directions. -/
def ringInterface : Interface :=
  { name := "A", bases := ["B", "C", "Missing"]
    properties := [{ name := "a?", type := .base "int" }] }

/-- The interface where the way out of the ring begins. -/
def exitInterface : Interface :=
  { name := "C", bases := ["B", "D"], properties := [{ name := "c", type := .base "int" }] }

/-- The interface behind the ring, which leads back into it. -/
def outerInterface : Interface :=
  { name := "D", bases := ["C"], properties := [{ name := "readonly d?", type := .base "int" }] }

/-- All of them, with an interface that is hidden by its namesake. -/
def ringInterfaces : List Interface :=
  [ringInterface, { name := "B", bases := ["C", "A", "B"] }, exitInterface, outerInterface,
    { name := "D", properties := [{ name := "hidden", type := .base "int" }] }]

/-- On the ring a field behind it is listed, and what is not listed no ancestor has. -/
theorem ring_lists_what_is_behind :
    OwnsName ringInterfaces ringInterface ∧ "d" ∈ flatten ringInterfaces ringInterface ∧
      ¬ ∃ owner, (owner = ringInterface ∨ IsAncestor ringInterfaces ringInterface.bases owner) ∧
        ∃ property ∈ owner.properties, Marker.strip property.name = "hidden" := by
  have owned : OwnsName ringInterfaces ringInterface := by decide +kernel
  refine ⟨owned, (mem_flatten_iff owned).mpr ?_, fun has => ?_⟩
  · have exitResolved : resolve? ringInterfaces "C" = some exitInterface := by decide +kernel
    have outerResolved : resolve? ringInterfaces "D" = some outerInterface := by decide +kernel
    have behindExit : IsAncestor ringInterfaces exitInterface.bases outerInterface :=
      .parent (by simp [exitInterface]) outerResolved
    have behind : IsAncestor ringInterfaces ringInterface.bases outerInterface :=
      .further (by simp [ringInterface]) exitResolved behindExit
    exact ⟨outerInterface, .inr behind, _, List.mem_cons_self, by decide +kernel⟩
  · have listed : flatten ringInterfaces ringInterface = ["a", "c", "d", "c", "d"] := by cbv
    have isListed := (mem_flatten_iff owned).mpr has
    simp [listed] at isListed

end ProtocolHeaders.Inheritance
