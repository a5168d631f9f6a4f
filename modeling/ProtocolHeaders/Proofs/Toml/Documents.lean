import ProtocolHeaders.Toml.Document

/-!
# Documents that grow at their end

A file that was written opens every table once and assigns every key once. Each statement then
adds an entry behind those that its table holds already, and leaves the rest of the document
alone.
-/

namespace ProtocolHeaders.Toml

namespace Entry

variable {key : String} {entries : List (String × Entry)}

/-- A key that no entry has yet. -/
def IsFresh (key : String) (entries : List (String × Entry)) : Prop :=
  key ∉ entries.map Prod.fst

/-- Nothing is found under a fresh key. -/
theorem IsFresh.lookup (fresh : IsFresh key entries) : entries.lookup key = none := by
  rw [List.lookup_eq_none_iff]
  intro entry member
  rw [bne_iff_ne]
  rintro rfl
  exact fresh (List.mem_map_of_mem member)

/-- Entries whose keys differ from a new one stay as they are. -/
theorem set_append (fresh : IsFresh key entries) (entry : Entry)
    (others : List (String × Entry)) :
    set key entry (entries ++ others) = entries ++ set key entry others := by
  induction entries with
  | nil => rfl
  | cons first tail inductionHypothesis =>
      obtain ⟨different, tailFresh⟩ := List.ne_and_not_mem_of_not_mem_cons fresh
      rw [List.cons_append, set, if_neg (Ne.symm different), inductionHypothesis tailFresh,
        List.cons_append]

/-- An entry with a fresh key is put behind the others. -/
theorem set_of_fresh (fresh : IsFresh key entries) (entry : Entry) :
    set key entry entries = entries ++ [(key, entry)] := by
  have grown := set_append fresh entry []
  rwa [List.append_nil] at grown

/-- The entry of the last key is replaced. -/
theorem set_last (fresh : IsFresh key entries) (held entry : Entry) :
    set key entry (entries ++ [(key, held)]) = entries ++ [(key, entry)] :=
  (set_append fresh entry [(key, held)]).trans (congrArg (entries ++ ·) (if_pos rfl))

/-- The last entry is found under its key. -/
theorem lookup_last (fresh : IsFresh key entries) (held : Entry) :
    (entries ++ [(key, held)]).lookup key = some held := by
  rw [List.lookup_append, fresh.lookup, Option.none_or]
  simp

/-- The entries of a whole document, given those at the end of a path. -/
def IsPlace (path : List String) (place : List (String × Entry) -> List (String × Entry)) :
    Prop :=
  ∀ change held, modifyAt change path (place held) = (change held).map place

/-- The top of a document is a place. -/
theorem isPlace_nil : IsPlace [] id := by
  intro change held
  exact (congrFun Option.map_id (change held)).symm

/-- The last entry of a table is on the way to what it holds itself. -/
theorem isPlace_last (fresh : IsFresh key entries) (origin : Origin) :
    IsPlace [key] (fun held => entries ++ [(key, .table origin held)]) := by
  intro change held
  rw [modifyAt, lookup_last fresh]
  change ((change held).bind fun inner =>
    some (set key (.table origin inner) (entries ++ [(key, .table origin held)]))) = _
  cases change held with
  | none => rfl
  | some changed => exact congrArg some (set_last fresh _ _)

/-- A change at the end of a path is one at the end of its second part, inside the first. -/
theorem modifyAt_append (change : List (String × Entry) -> Option (List (String × Entry)))
    (first second : List String) (entries : List (String × Entry)) :
    modifyAt change (first ++ second) entries =
      modifyAt (modifyAt change second) first entries := by
  induction first generalizing entries with
  | nil => rfl
  | cons step others inductionHypothesis =>
      rw [List.cons_append, modifyAt, modifyAt]
      simp only [inductionHypothesis]

/-- A place inside a place is one at the joined path. -/
theorem IsPlace.append {first second : List String}
    {outer inner : List (String × Entry) -> List (String × Entry)} (isOuter : IsPlace first outer)
    (isInner : IsPlace second inner) : IsPlace (first ++ second) (outer ∘ inner) := by
  intro change held
  rw [Function.comp_apply, modifyAt_append, isOuter, isInner, Option.map_map]

end Entry

namespace Document

open Entry (IsFresh IsPlace)

variable {path : List String} {place : List (String × Entry) -> List (String × Entry)}
  {held : List (String × Entry)} {key : String}

/-- A new key is assigned behind the others of the open table. -/
theorem assign_of_fresh (isPlace : IsPlace path place) (fresh : IsFresh key held)
    (value : Value) :
    assign [key] value { entries := place held, path } =
      some { entries := place (held ++ [(key, .value value)]), path } := by
  change ((Entry.modifyAt (Entry.assign key value []) path (place held)).bind fun entries =>
    some { entries, path : Document }) = _
  rw [isPlace, Entry.assign, fresh.lookup]
  change some { entries := place (Entry.set key (.value value) held), path : Document } = _
  rw [Entry.set_of_fresh fresh]

/-- A new table is opened behind the other entries of the table that holds it. -/
theorem openTable_of_fresh (isPlace : IsPlace path place) (fresh : IsFresh key held)
    (opened : List String) :
    openTable (path ++ [key]) { entries := place held, path := opened } =
      some { entries := place (held ++ [(key, .table .header [])]), path := path ++ [key] } := by
  rw [openTable, List.getLast?_concat, List.dropLast_concat]
  change ((Entry.modifyAt (Entry.openTable key) path (place held)).bind fun entries =>
    some { entries, path := path ++ [key] : Document }) = _
  rw [isPlace, Entry.openTable, fresh.lookup]
  change some
    { entries := place (Entry.set key (.table .header []) held), path := _ : Document } = _
  rw [Entry.set_of_fresh fresh]

/-- A table on the way to a new one is made if it is missing. -/
theorem openTable_of_fresh_way {way : String} (fresh : IsFresh way held) (key : String)
    (opened : List String) :
    openTable [way, key] { entries := held, path := opened } =
      some {
        entries := held ++ [(way, .table .implied [(key, .table .header [])])]
        path := [way, key] } := by
  change ((Entry.modifyAt (Entry.openTable key) [way] held).bind fun entries =>
    some { entries, path := [way, key] : Document }) = _
  rw [Entry.modifyAt, fresh.lookup]
  change some { entries := Entry.set way _ held, path := [way, key] : Document } = _
  rw [Entry.set_of_fresh fresh]
  rfl

end Document

end ProtocolHeaders.Toml
