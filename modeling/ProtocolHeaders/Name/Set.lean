import ProtocolHeaders.Name.Order

/-!
# Sets of names

A `NameSet` lists its names in ascending order, each once, so two sets with the
same members are equal and the order in which members were added never shows.
-/

namespace ProtocolHeaders

/-- A finite set of names, listed in ascending order. -/
structure NameSet where
  names : List String
  ascending : names.Pairwise (· < ·) := by decide
deriving DecidableEq

namespace NameSet

instance : Repr NameSet := ⟨fun names depth => reprPrec names.names depth⟩

/-- The set without members. -/
def empty : NameSet := ⟨[], .nil⟩

instance : Inhabited NameSet := ⟨empty⟩
instance : EmptyCollection NameSet := ⟨empty⟩

instance : Membership String NameSet := ⟨fun names name => name ∈ names.names⟩

/-- A name is in a set if it is one of the names that the set holds. -/
theorem mem_def {name : String} {names : NameSet} : name ∈ names ↔ name ∈ names.names := Iff.rfl

instance (name : String) (names : NameSet) : Decidable (name ∈ names) :=
  inferInstanceAs (Decidable (name ∈ names.names))

/-- An ascending list holds no name twice. -/
theorem nodup_of_ascending {names : List String} (ascending : names.Pairwise (· < ·)) :
    names.Nodup := by
  refine List.Pairwise.imp ?_ ascending
  rintro first second below rfl
  exact String.lt_irrefl _ below

/-- Ascending lists with the same members are equal. -/
theorem names_eq_of_mem_iff {left right : List String} (leftAscends : left.Pairwise (· < ·))
    (rightAscends : right.Pairwise (· < ·)) (sameMembers : ∀ name, name ∈ left ↔ name ∈ right) :
    left = right := by
  have permuted : left.Perm right :=
    (List.perm_ext_iff_of_nodup (nodup_of_ascending leftAscends)
      (nodup_of_ascending rightAscends)).mpr sameMembers
  refine permuted.eq_of_pairwise ?_ leftAscends rightAscends
  intro first second _ _ below above
  exact absurd (String.lt_trans below above) (String.lt_irrefl _)

/-- Sets with the same members are equal. -/
theorem eq_of_mem_iff {left right : NameSet} (sameMembers : ∀ name, name ∈ left ↔ name ∈ right) :
    left = right := by
  obtain ⟨leftNames, leftAscends⟩ := left
  obtain ⟨rightNames, rightAscends⟩ := right
  obtain rfl : leftNames = rightNames := names_eq_of_mem_iff leftAscends rightAscends sameMembers
  rfl

/-- Whether a name is a member. -/
def contains (names : NameSet) (name : String) : Bool := names.names.contains name

/-- Whether a set contains a name is computed. -/
@[simp] theorem contains_iff {name : String} {names : NameSet} :
    names.contains name = true ↔ name ∈ names := by
  simp [contains, mem_def]

/-- A set that does not contain a name does not have it. -/
@[simp] theorem contains_eq_false_iff {name : String} {names : NameSet} :
    names.contains name = false ↔ name ∉ names := by
  rw [← contains_iff, Bool.not_eq_true]

/-- Whether a set has no member. -/
def isEmpty (names : NameSet) : Bool := names.names.isEmpty

/-- The number of members. -/
def size (names : NameSet) : Nat := names.names.length

/-- A name put into its place in an ascending list. -/
def insertSorted (name : String) : List String -> List String
  | [] => [name]
  | first :: others =>
      if name < first then name :: first :: others
      else if name = first then first :: others
      else first :: insertSorted name others

/-- Inserting adds the name and nothing else. -/
theorem mem_insertSorted {name other : String} {names : List String} :
    other ∈ insertSorted name names ↔ other = name ∨ other ∈ names := by
  induction names with
  | nil => simp [insertSorted]
  | cons first others inductionHypothesis =>
      simp only [insertSorted]
      split
      · simp
      · split
        · subst_vars
          simp
        · simp [inductionHypothesis, or_left_comm]

/-- Names stay in ascending order when one is inserted. -/
theorem pairwise_insertSorted {name : String} {names : List String}
    (ascending : names.Pairwise (· < ·)) : (insertSorted name names).Pairwise (· < ·) := by
  induction names with
  | nil => simp [insertSorted]
  | cons first others inductionHypothesis =>
      obtain ⟨firstBelow, othersAscend⟩ := List.pairwise_cons.mp ascending
      simp only [insertSorted]
      split
      · rename_i below
        refine List.pairwise_cons.mpr ⟨?_, ascending⟩
        intro other member
        rcases List.mem_cons.mp member with rfl | member
        · exact below
        · exact String.lt_trans below (firstBelow other member)
      · split
        · exact ascending
        · rename_i notBelow differ
          refine List.pairwise_cons.mpr ⟨?_, inductionHypothesis othersAscend⟩
          intro other member
          rcases mem_insertSorted.mp member with rfl | member
          · exact Name.lt_of_not_lt_of_ne notBelow differ
          · exact firstBelow other member

/-- The set with one name added. -/
def insert (names : NameSet) (name : String) : NameSet :=
  ⟨insertSorted name names.names, pairwise_insertSorted names.ascending⟩

/-- An inserted name joins those that are there. -/
@[simp] theorem mem_insert {names : NameSet} {name other : String} :
    other ∈ names.insert name ↔ other = name ∨ other ∈ names :=
  mem_insertSorted

/-- The set of the names in a list. -/
def ofList (names : List String) : NameSet :=
  names.foldr (fun name set => set.insert name) empty

/-- A set made from a list has the names of the list. -/
@[simp] theorem mem_ofList {names : List String} {name : String} :
    name ∈ ofList names ↔ name ∈ names := by
  induction names with
  | nil => simp [ofList, empty, mem_def]
  | cons first others inductionHypothesis =>
      simp only [ofList, List.foldr_cons, mem_insert, List.mem_cons] at inductionHypothesis ⊢
      rw [inductionHypothesis]

/-- A set is made up again from the list of its members. -/
theorem ofList_names (names : NameSet) : ofList names.names = names :=
  eq_of_mem_iff fun _ => mem_ofList

/-- The members that satisfy a condition. -/
def filter (condition : String -> Bool) (names : NameSet) : NameSet :=
  ⟨names.names.filter condition, names.ascending.filter condition⟩

/-- Filtering leaves the names that meet the condition. -/
@[simp] theorem mem_filter {condition : String -> Bool} {names : NameSet} {name : String} :
    name ∈ names.filter condition ↔ name ∈ names ∧ condition name = true := by
  simp [filter, mem_def]

/-- The set without one name. -/
def erase (names : NameSet) (name : String) : NameSet :=
  names.filter (· != name)

/-- Erasing takes away one name. -/
@[simp] theorem mem_erase {names : NameSet} {name other : String} :
    other ∈ names.erase name ↔ other ∈ names ∧ other ≠ name := by
  simp [erase]

end NameSet

end ProtocolHeaders
