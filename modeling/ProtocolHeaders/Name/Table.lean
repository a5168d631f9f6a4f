import ProtocolHeaders.Name.Set

/-!
# Tables keyed by names

A `NameTable` holds at most one value for each name and lists its entries in
ascending order of the names.
-/

namespace ProtocolHeaders

/-- A finite table from names to values, in ascending order of the names. -/
structure NameTable (α : Type) where
  entries : List (String × α)
  ascending : (entries.map Prod.fst).Pairwise (· < ·) := by decide
deriving DecidableEq

/-- The first entry of a key counts. -/
theorem lookup_cons_eq_ite {κ α : Type} [BEq κ] [LawfulBEq κ] [DecidableEq κ] (key : κ)
    (first : κ × α) (others : List (κ × α)) :
    (first :: others).lookup key = if key = first.1 then some first.2 else others.lookup key := by
  obtain ⟨here, value⟩ := first
  rw [List.lookup_cons]
  by_cases same : key = here
  · rw [if_pos same, beq_iff_eq.mpr same]
  · rw [if_neg same, beq_eq_false_iff_ne.mpr same]

namespace NameTable

variable {α : Type}

instance [Repr α] : Repr (NameTable α) := ⟨fun table depth => reprPrec table.entries depth⟩

/-- No names are in ascending order. -/
theorem ascending_nil : (([] : List (String × α)).map Prod.fst).Pairwise (· < ·) :=
  List.Pairwise.nil

/-- The table without entries. -/
def empty : NameTable α := ⟨[], ascending_nil⟩

instance : Inhabited (NameTable α) := ⟨empty⟩

/-- The value held for a name. -/
def get? (table : NameTable α) (name : String) : Option α :=
  table.entries.lookup name

/-- The names that have a value. -/
def keys (table : NameTable α) : List String :=
  table.entries.map Prod.fst

/-- No value is held for a name that is no key. -/
theorem get?_eq_none_iff {table : NameTable α} {name : String} :
    table.get? name = none ↔ name ∉ table.keys := by
  rw [get?, keys, List.lookup_eq_none_iff]
  constructor
  · intro differs member
    obtain ⟨entry, isEntry, rfl⟩ := List.mem_map.mp member
    exact absurd rfl (bne_iff_ne.mp (differs entry isEntry))
  · intro noKey entry isEntry
    rw [bne_iff_ne]
    rintro rfl
    exact noKey (List.mem_map_of_mem isEntry)

/-- An entry put into its place in an ascending list, instead of the one with the
same name if there is one. -/
def insertSorted (name : String) (value : α) : List (String × α) -> List (String × α)
  | [] => [(name, value)]
  | first :: others =>
      if name < first.1 then (name, value) :: first :: others
      else if name = first.1 then (name, value) :: others
      else first :: insertSorted name value others

/-- Inserting an entry inserts its name. -/
theorem map_fst_insertSorted (name : String) (value : α) (entries : List (String × α)) :
    (insertSorted name value entries).map Prod.fst =
      NameSet.insertSorted name (entries.map Prod.fst) := by
  induction entries with
  | nil => rfl
  | cons first others inductionHypothesis =>
      simp only [insertSorted, NameSet.insertSorted, List.map_cons]
      split
      · simp
      · split
        · simp_all
        · simp [inductionHypothesis]

/-- The table with a value held for a name. -/
def insert (table : NameTable α) (name : String) (value : α) : NameTable α :=
  ⟨insertSorted name value table.entries, by
    rw [map_fst_insertSorted]
    exact NameSet.pairwise_insertSorted table.ascending⟩

/-- What is inserted is found under its name, and all else as before. -/
theorem lookup_insertSorted (name other : String) (value : α) (entries : List (String × α)) :
    (insertSorted name value entries).lookup other =
      if other = name then some value else entries.lookup other := by
  induction entries with
  | nil => rw [insertSorted, lookup_cons_eq_ite]
  | cons first others inductionHypothesis =>
      rw [insertSorted, lookup_cons_eq_ite other first]
      split
      · rw [lookup_cons_eq_ite, lookup_cons_eq_ite]
      · split
        · rename_i replaced
          rw [lookup_cons_eq_ite, replaced]
          split <;> rfl
        · rename_i kept
          rw [lookup_cons_eq_ite, inductionHypothesis]
          by_cases same : other = name
          · rw [if_pos same, if_neg (same ▸ kept), if_pos same]
          · rw [if_neg same, if_neg same]

/-- A value that is put into a table is held for its name, and for no other. -/
theorem get?_insert (table : NameTable α) (name other : String) (value : α) :
    (table.insert name value).get? other = if other = name then some value else table.get? other :=
  lookup_insertSorted name other value table.entries

/-- The table of a list of entries. Of two entries with one name the later counts. -/
def ofList (entries : List (String × α)) : NameTable α :=
  entries.foldl (fun table entry => table.insert entry.1 entry.2) empty

/-- A name above all others is inserted at the end. -/
theorem insertSorted_last {name : String} {entries : List (String × α)}
    (above : ∀ entry ∈ entries, entry.1 < name) (value : α) :
    insertSorted name value entries = entries ++ [(name, value)] := by
  induction entries with
  | nil => rfl
  | cons first others inductionHypothesis =>
      obtain ⟨firstBelow, othersBelow⟩ := List.forall_mem_cons.mp above
      have notBelow : ¬name < first.1 := by
        intro below
        exact String.lt_irrefl _ (String.lt_trans below firstBelow)
      have different : name ≠ first.1 := by
        intro same
        exact String.lt_irrefl _ (same ▸ firstBelow)
      rw [insertSorted, if_neg notBelow, if_neg different, inductionHypothesis othersBelow,
        List.cons_append]

/-- Entries that come behind those of a table in its order are added behind them. -/
theorem entries_foldl_insert (table : NameTable α) {others : List (String × α)}
    (ascending : ((table.entries ++ others).map Prod.fst).Pairwise (· < ·)) :
    (others.foldl (fun table entry => table.insert entry.1 entry.2) table).entries =
      table.entries ++ others := by
  induction others generalizing table with
  | nil => exact (List.append_nil _).symm
  | cons first others inductionHypothesis =>
      have above : ∀ entry ∈ table.entries, entry.1 < first.1 := by
        intro entry member
        rw [List.map_append, List.pairwise_append] at ascending
        exact ascending.2.2 _ (List.mem_map_of_mem member) _ List.mem_cons_self
      have grown : (table.insert first.1 first.2).entries = table.entries ++ [first] :=
        insertSorted_last above first.2
      have moved : table.entries ++ [first] ++ others = table.entries ++ first :: others :=
        List.append_cons .. |>.symm
      rw [List.foldl_cons, inductionHypothesis, grown, moved]
      rwa [grown, moved]

/-- A table is made again from its entries. -/
theorem ofList_entries (table : NameTable α) : ofList table.entries = table := by
  have entries : (ofList table.entries).entries = table.entries :=
    entries_foldl_insert empty table.ascending
  obtain ⟨held, ascending⟩ := table
  cases made : ofList held with
  | mk others othersAscending =>
      rw [made] at entries
      cases entries
      rfl

end NameTable

end ProtocolHeaders
