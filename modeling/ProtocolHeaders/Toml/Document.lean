import ProtocolHeaders.Toml.Value

/-!
# Documents under construction

A document grows by headers and assignments. A header opens a table that was not
opened before, or adds an element to a list of tables. An assignment goes to the open
table; the points of its key lead through tables that only assignments have made.
-/

namespace ProtocolHeaders.Toml

/-- How a table of a document came about. -/
inductive Origin where
  /-- By its own header. -/
  | header
  /-- On the way to the table of a header. -/
  | implied
  /-- On the way of an assignment. -/
  | dotted
deriving Repr, DecidableEq

/-- What a key of a document holds so far. -/
inductive Entry where
  /-- A value that is complete. -/
  | value (value : Value)
  | table (origin : Origin) (entries : List (String × Entry))
  /-- A list of tables, the last one first. -/
  | tables (lastFirst : List (List (String × Entry)))
deriving Repr, Inhabited

namespace Entry

/-- Entries with what a key holds replaced, or added if the key is new. -/
def set (key : String) (entry : Entry) : List (String × Entry) -> List (String × Entry)
  | [] => [(key, entry)]
  | first :: others =>
      if first.1 = key then (key, entry) :: others else first :: set key entry others

/-- Entries changed at the end of a path of headers. Tables on the way are made if
they are missing; a list of tables stands for its last element. -/
def modifyAt (change : List (String × Entry) -> Option (List (String × Entry))) :
    (path : List String) -> List (String × Entry) -> Option (List (String × Entry))
  | [], entries => change entries
  | key :: path, entries =>
      match entries.lookup key with
      | none => do
          return set key (.table .implied (<- modifyAt change path [])) entries
      | some (.table origin inner) => do
          return set key (.table origin (<- modifyAt change path inner)) entries
      | some (.tables (last :: earlier)) => do
          return set key (.tables ((<- modifyAt change path last) :: earlier)) entries
      | some _ => none

/-- Open a table: a new one, or one that only stands on the way to others. -/
def openTable (key : String) (entries : List (String × Entry)) :
    Option (List (String × Entry)) :=
  match entries.lookup key with
  | none => some (set key (.table .header []) entries)
  | some (.table .implied inner) => some (set key (.table .header inner) entries)
  | some _ => none

/-- Add an empty element to a list of tables, which is made if it is missing. -/
def addElement (key : String) (entries : List (String × Entry)) :
    Option (List (String × Entry)) :=
  match entries.lookup key with
  | none => some (set key (.tables [[]]) entries)
  | some (.tables lastFirst) => some (set key (.tables ([] :: lastFirst)) entries)
  | some _ => none

/-- Assign a value to a key that is new. The tables on the way are made if they are
missing; the last of them must have been made by an assignment, and none by a header. -/
def assign (key : String) (value : Value) :
    (path : List String) -> List (String × Entry) -> Option (List (String × Entry))
  | [], entries =>
      match entries.lookup key with
      | none => some (set key (.value value) entries)
      | some _ => none
  | step :: path, entries =>
      match entries.lookup step with
      | none => do
          return set step (.table .dotted (<- assign key value path [])) entries
      | some (.table origin inner) =>
          if origin = .header || (path.isEmpty && origin != .dotted) then none
          else do return set step (.table origin (<- assign key value path inner)) entries
      | some (.tables (last :: earlier)) =>
          if path.isEmpty then none
          else do
            return set step (.tables ((<- assign key value path last) :: earlier)) entries
      | some _ => none

mutual

/-- What an entry holds once the document is complete. -/
def toValue : Entry -> Value
  | .value held => held
  | .table _ entries => .table (toTable entries)
  | .tables lastFirst => .list (toTables lastFirst).reverse

/-- The entries of a table once the document is complete. -/
def toTable : List (String × Entry) -> Table
  | [] => []
  | (key, entry) :: others => (key, toValue entry) :: toTable others

/-- The elements of a list of tables once the document is complete. -/
def toTables : List (List (String × Entry)) -> List Value
  | [] => []
  | first :: others => .table (toTable first) :: toTables others

end

end Entry

/-- A document with the path of the table that assignments go to. -/
structure Document where
  entries : List (String × Entry) := []
  path : List String := []
deriving Repr, Inhabited

namespace Document

/-- Go on with the table of a header. -/
def openTable (key : List String) (document : Document) : Option Document := do
  let last <- key.getLast?
  let entries <- Entry.modifyAt (Entry.openTable last) key.dropLast document.entries
  return { entries, path := key }

/-- Go on with a new element of a list of tables. -/
def addElement (key : List String) (document : Document) : Option Document := do
  let last <- key.getLast?
  let entries <- Entry.modifyAt (Entry.addElement last) key.dropLast document.entries
  return { entries, path := key }

/-- Assign a value in the open table. -/
def assign (key : List String) (value : Value) (document : Document) : Option Document := do
  let last <- key.getLast?
  let entries <-
    Entry.modifyAt (Entry.assign last value key.dropLast) document.path document.entries
  return { document with entries }

/-- The table that a complete document is. -/
def toTable (document : Document) : Table :=
  Entry.toTable document.entries

end Document

end ProtocolHeaders.Toml
