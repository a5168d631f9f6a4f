import ProtocolHeaders.Proofs.Header.MessageNames
import ProtocolHeaders.Proofs.Validation.Exactness

/-!
# Which collisions are reported

The collisions of a list of methods can be found in one pass with a table that holds, for each
identifier so far, the first method that has it. So the methods that are reported are those at
whose position an earlier method has the same identifier, each with the first such method, and
as many as there are methods beyond the different identifiers.
-/

namespace ProtocolHeaders.Header.Messages

open Log (Event)

/-- A table holds the first of some methods for each of their identifiers, and nothing else. -/
def Remembers (seen : NameTable String) (before : List String) : Prop :=
  ∀ name, seen.get? name = before.find? (identifier · == name)

/-- The collisions of methods with each other and with earlier ones that a table remembers. -/
def collisionsBehind (seen : NameTable String) : (methods : List String) -> List Event
  | [] => []
  | method :: others =>
      match seen.get? (identifier method) with
      | some first =>
          .methodCollision first method (identifier method) :: collisionsBehind seen others
      | none => collisionsBehind (seen.insert (identifier method) method) others

/-! ## What a table remembers -/

section

variable {seen : NameTable String} {before : List String} {method : String}

/-- Where an identifier is found, the method is not the first that has it. -/
theorem Remembers.repeated {first : String} (remembers : Remembers seen before)
    (found : seen.get? (identifier method) = some first) :
    Remembers seen (before ++ [method]) := by
  intro name
  rw [List.find?_append, ← remembers name]
  by_cases same : identifier method = name
  · rw [← same, found]
    rfl
  · rw [List.find?_singleton, if_neg (by simpa using same), Option.or_none]

/-- Where none is found, the method is the first, and the table is told so. -/
theorem Remembers.insert (remembers : Remembers seen before)
    (unseen : seen.get? (identifier method) = none) :
    Remembers (seen.insert (identifier method) method) (before ++ [method]) := by
  intro name
  rw [NameTable.get?_insert, List.find?_append, ← remembers name, List.find?_singleton]
  by_cases same : name = identifier method
  · subst same
    simp [unseen]
  · have differs : ¬ (identifier method == name) = true := by
      simpa using Ne.symm same
    rw [if_neg same, if_neg differs, Option.or_none]

/-- An empty table remembers no methods. -/
theorem remembers_empty : Remembers .empty [] :=
  fun _ => rfl

/-- An identifier was met if the table has it. -/
theorem Remembers.mem_map_iff (remembers : Remembers seen before) {name : String} :
    name ∈ before.map identifier ↔ seen.get? name ≠ none := by
  rw [remembers name, ne_eq, List.find?_eq_none, List.mem_map]
  simp

end

/-- The repeated methods, each with the first of its identifier, are what the pass reports. -/
theorem filterMap_repeatsAfter {seen : NameTable String} {before keys : List String}
    (remembers : Remembers seen before) (known : ∀ name, name ∈ keys ↔ seen.get? name ≠ none)
    (methods : List String) :
    (Name.repeatsAfter identifier keys methods).filterMap (fun method =>
        ((before ++ methods).find? (identifier · == identifier method)).map fun first =>
          .methodCollision first method (identifier method)) =
      collisionsBehind seen methods := by
  induction methods generalizing seen before keys with
  | nil => rfl
  | cons method others inductionHypothesis =>
      have moved : before ++ method :: others = before ++ [method] ++ others := by simp
      rw [Name.repeatsAfter, collisionsBehind]
      cases found : seen.get? (identifier method) with
      | some first =>
          have isKnown : identifier method ∈ keys := (known _).mpr (by simp [found])
          have isFirst : (before ++ method :: others).find? (identifier · == identifier method) =
              some first := by
            rw [List.find?_append, ← remembers, found]
            rfl
          rw [if_pos isKnown, List.filterMap_cons, isFirst, Option.map_some, moved,
            inductionHypothesis (remembers.repeated found) known]
      | none =>
          have unknown : identifier method ∉ keys := fun isKnown => (known _).mp isKnown found
          have stillKnown : ∀ name, name ∈ identifier method :: keys ↔
              (seen.insert (identifier method) method).get? name ≠ none := by
            intro name
            rw [List.mem_cons, known, NameTable.get?_insert]
            by_cases same : name = identifier method
            · simp [same]
            · simp [same]
          rw [if_neg unknown, moved,
            inductionHypothesis (remembers.insert found) stillKnown]

/-- One pass finds the collisions. -/
theorem collisions_eq_collisionsBehind (methods : List String) :
    collisions methods = collisionsBehind .empty methods :=
  filterMap_repeatsAfter remembers_empty (fun _ => by simp [NameTable.get?, NameTable.empty])
    methods

/-! ## Reports by position -/

/-- The method at a position has the identifier of an earlier one. -/
def RepeatsAt (methods : List String) (index : Nat) : Prop :=
  ∃ method, methods[index]? = some method ∧
    ∃ earlier ∈ methods.take index, identifier earlier = identifier method

/-- An event reports the method at a position with the earliest of its identifier. -/
def ReportsAt (methods : List String) (index : Nat) (event : Event) : Prop :=
  ∃ method earliest before after, methods[index]? = some method ∧
    methods.take index = before ++ earliest :: after ∧
    (∀ other ∈ before, identifier other ≠ identifier method) ∧
    identifier earliest = identifier method ∧
    event = .methodCollision earliest method (identifier method)

section

variable {seen : NameTable String} {before : List String}

/-- The next method repeats an identifier if the table has it. -/
theorem Remembers.repeatsAt_length_iff (remembers : Remembers seen before) (method : String)
    (others : List String) :
    RepeatsAt (before ++ method :: others) before.length ↔
      seen.get? (identifier method) ≠ none := by
  rw [← remembers.mem_map_iff, RepeatsAt, List.take_left, List.mem_map]
  simp

/-- What the table has for an identifier is the method that came first with it. -/
theorem Remembers.reportsAt_length (remembers : Remembers seen before) {method first : String}
    (found : seen.get? (identifier method) = some first) (others : List String) :
    ReportsAt (before ++ method :: others) before.length
      (.methodCollision first method (identifier method)) := by
  rw [remembers, List.find?_eq_some_iff_append] at found
  obtain ⟨same, earlier, later, rfl, different⟩ := found
  refine ⟨method, first, earlier, later, by simp, List.take_left .., ?_, by simpa using same, rfl⟩
  intro other member
  simpa using different other member

end

/-- What holds from a position on holds at it or from the next one on. -/
theorem le_and_iff (start : Nat) {index : Nat} (holds : Nat -> Prop) :
    start ≤ index ∧ holds index ↔
      index = start ∧ holds start ∨ start + 1 ≤ index ∧ holds index := by
  constructor
  · rintro ⟨within, held⟩
    rcases Nat.eq_or_lt_of_le within with rfl | beyond
    · exact .inl ⟨rfl, held⟩
    · exact .inr ⟨beyond, held⟩
  · rintro (⟨rfl, held⟩ | ⟨beyond, held⟩)
    · exact ⟨Nat.le_refl _, held⟩
    · exact ⟨Nat.le_of_lt beyond, held⟩

/-- Behind remembered methods, the pass reports exactly the positions with a repeated
identifier, in their order. -/
theorem exists_indices_collisionsBehind {seen : NameTable String} {before : List String}
    (remembers : Remembers seen before) (methods : List String) :
    ∃ indices : List Nat, indices.Pairwise (· < ·) ∧
      (∀ index, index ∈ indices ↔ before.length ≤ index ∧ RepeatsAt (before ++ methods) index) ∧
      List.Forall₂ (ReportsAt (before ++ methods)) indices (collisionsBehind seen methods) := by
  induction methods generalizing seen before with
  | nil =>
      refine ⟨[], .nil, fun index => ?_, .nil⟩
      simp only [List.not_mem_nil, false_iff, not_and]
      rintro beyond ⟨method, isMethod, -⟩
      rw [List.append_nil, List.getElem?_eq_none beyond] at isMethod
      cases isMethod
  | cons method others inductionHypothesis =>
      have moved : before ++ method :: others = before ++ [method] ++ others := by simp
      have here := remembers.repeatsAt_length_iff method others
      rw [collisionsBehind]
      cases found : seen.get? (identifier method) with
      | some first =>
          obtain ⟨indices, ascending, exact, reported⟩ :=
            inductionHypothesis (remembers.repeated found)
          rw [← moved] at exact reported
          refine ⟨before.length :: indices, ?_, fun index => ?_,
            .cons (remembers.reportsAt_length found others) reported⟩
          · refine List.pairwise_cons.mpr ⟨fun index member => ?_, ascending⟩
            have beyond := ((exact index).mp member).1
            simpa using beyond
          · have repeats := here.mpr (by simp [found])
            rw [List.mem_cons, exact, List.length_append, List.length_singleton,
              le_and_iff before.length (RepeatsAt _)]
            simp only [repeats, and_true]
      | none =>
          obtain ⟨indices, ascending, exact, reported⟩ :=
            inductionHypothesis (remembers.insert found)
          rw [← moved] at exact reported
          refine ⟨indices, ascending, fun index => ?_, reported⟩
          have first := mt here.mp (not_not.mpr found)
          rw [exact, List.length_append, List.length_singleton,
            le_and_iff before.length (RepeatsAt _)]
          simp only [first, and_false, false_or]

/-- For every list of methods, exactly those are reported that have the identifier of an earlier
method, in their order, each as a warning that names the earliest such method. So there are as
many reports as there are methods less different identifiers. -/
theorem collisions_report_repeats (methods : List String) :
    (∃ indices : List Nat, indices.Pairwise (· < ·) ∧
      (∀ index, index ∈ indices ↔ RepeatsAt methods index) ∧
      List.Forall₂ (ReportsAt methods) indices (collisions methods)) ∧
    (∀ event ∈ collisions methods, event.level = .warn) ∧
    (collisions methods).length + (methods.map identifier).toFinset.card = methods.length := by
  obtain ⟨indices, ascending, exact, reported⟩ :=
    exists_indices_collisionsBehind remembers_empty methods
  rw [← collisions_eq_collisionsBehind] at reported
  refine ⟨⟨indices, ascending, fun index => ?_, reported⟩, ?_, ?_⟩
  · rw [exact]
    exact and_iff_right (Nat.zero_le index)
  · intro event member
    obtain ⟨method, -, made⟩ := List.mem_filterMap.mp member
    obtain ⟨first, -, rfl⟩ := Option.map_eq_some_iff.mp made
    rfl
  · have counted := Validation.length_repeats identifier methods
    have distinct : (methods.map identifier).toFinset.card ≤ (methods.map identifier).length :=
      List.toFinset_card_le _
    rw [Validation.surplus, List.length_map] at counted
    rw [List.length_map] at distinct
    rw [length_collisions, counted]
    omega

end ProtocolHeaders.Header.Messages
