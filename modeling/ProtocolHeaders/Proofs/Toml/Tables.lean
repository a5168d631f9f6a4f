import ProtocolHeaders.Proofs.Toml.Documents
import ProtocolHeaders.Proofs.Toml.Lines

/-!
# Tables are read as they were written

A table is a header with the lines of its fields. Where its header opens a table without
entries, the lines fill it with the values of the fields, in their order.
-/

namespace ProtocolHeaders.Toml

/-- A line of a table: a key and a value, with the text that spells the value. -/
structure Field where
  key : String
  value : Value
  written : List Char
  spells : Spells written value

namespace Field

/-- A field with a text. -/
def text (key value : String) : Field :=
  ⟨key, .text value, writeText value.toList, spells_text value⟩

/-- A field with a flag. -/
def flag (key : String) (value : Bool) : Field :=
  ⟨key, .flag value, writeFlag value, spells_flag value⟩

/-- A field with a list of texts. -/
def texts (key : String) (items : List String) : Field :=
  ⟨key, .list (items.map .text), writeTexts items, spells_texts items⟩

/-- What a table holds for a field once it is complete. -/
def entry (field : Field) : String × Value :=
  (field.key, field.value)

/-- What a document holds for a field. -/
def held (field : Field) : String × Entry :=
  (field.key, .value field.value)

/-- The lines of fields. -/
def lines (fields : List Field) : List Char :=
  fields.flatMap fun field => writeAssignment field.key field.written

end Field

/-- Tables are made of their entries one by one. -/
theorem toTable_append (first second : List (String × Entry)) :
    Entry.toTable (first ++ second) = Entry.toTable first ++ Entry.toTable second := by
  induction first with
  | nil => rfl
  | cons entry others inductionHypothesis =>
      obtain ⟨key, held⟩ := entry
      rw [List.cons_append, Entry.toTable, Entry.toTable, inductionHypothesis, List.cons_append]

/-- The table of fields has the entry of each. -/
theorem toTable_held (fields : List Field) :
    Entry.toTable (fields.map Field.held) = fields.map Field.entry := by
  induction fields with
  | nil => rfl
  | cons field others inductionHypothesis =>
      rw [List.map_cons, List.map_cons, ← inductionHypothesis]
      rfl

open Entry (IsFresh IsPlace)

variable {path : List String} {place : List (String × Entry) -> List (String × Entry)}

/-- The lines of fields add these to the entries of the open table. -/
theorem builds_lines (isPlace : IsPlace path place) {fields : List Field}
    {held : List (String × Entry)}
    (distinct : (held.map Prod.fst ++ fields.map Field.key).Nodup) :
    Builds (Field.lines fields) { entries := place held, path }
      { entries := place (held ++ fields.map Field.held), path } := by
  induction fields generalizing held with
  | nil =>
      rw [List.map_nil, List.append_nil]
      exact Builds.refl _
  | cons field others inductionHypothesis =>
      have fresh : IsFresh field.key held := by
        intro member
        exact (List.nodup_append.mp distinct).2.2 _ member _ List.mem_cons_self rfl
      have assigned := builds_assignment field.spells
        (Document.assign_of_fresh isPlace fresh field.value)
      have moved : held ++ (field :: others).map Field.held =
          held ++ [field.held] ++ others.map Field.held :=
        List.append_cons ..
      rw [moved]
      refine assigned.append (inductionHypothesis ?_)
      rw [List.map_append, List.append_assoc]
      exact distinct

/-- A header and the lines of its fields add a table of these. -/
theorem builds_table (isPlace : IsPlace path place) (isPath : IsHeaderPath path)
    {before : Document} (opened : before.openTable path = some { entries := place [], path })
    {fields : List Field} (distinct : (fields.map Field.key).Nodup) :
    Builds (writeHeader path ++ Field.lines fields) before
      { entries := place (fields.map Field.held), path } :=
  (builds_header isPath opened).append (builds_lines isPlace distinct)

/-- A table at the top of a document is added behind the others. -/
theorem builds_topTable {key : String} (bare : IsBare key) {earlier : List (String × Entry)}
    (fresh : IsFresh key earlier) (opened : List String) {fields : List Field}
    (distinct : (fields.map Field.key).Nodup) :
    Builds (writeHeader [key] ++ Field.lines fields) { entries := earlier, path := opened }
      { entries := earlier ++ [(key, .table .header (fields.map Field.held))], path := [key] } := by
  have isPath : IsHeaderPath [key] :=
    ⟨List.cons_ne_nil _ _, List.forall_mem_singleton.mpr bare, (by decide : 1 ≤ nestingLimit)⟩
  exact builds_table (Entry.isPlace_last fresh .header) isPath
    (Document.openTable_of_fresh Entry.isPlace_nil fresh opened) distinct

/-- A table at the top of a document, with a blank line behind it. -/
structure TopTable where
  key : String
  fields : List Field
  bare : IsBare key
  distinct : (fields.map Field.key).Nodup

namespace TopTable

def text (table : TopTable) : List Char :=
  writeHeader [table.key] ++ Field.lines table.fields ++ ['\n']

/-- What a document holds for the table. -/
def held (table : TopTable) : String × Entry :=
  (table.key, .table .header (table.fields.map Field.held))

/-- What the table is once the document is complete. -/
def entry (table : TopTable) : String × Value :=
  (table.key, .table (table.fields.map Field.entry))

end TopTable

/-- The table of a document has the entry of each table at its top. -/
theorem toTable_topTables (tables : List TopTable) :
    Entry.toTable (tables.map TopTable.held) = tables.map TopTable.entry := by
  induction tables with
  | nil => rfl
  | cons table others inductionHypothesis =>
      rw [List.map_cons, List.map_cons, TopTable.held, Entry.toTable, Entry.toValue, toTable_held,
        inductionHypothesis]
      rfl

/-- Tables with different keys are added one behind the other. -/
theorem builds_topTables {tables : List TopTable} {earlier : List (String × Entry)}
    (distinct : (earlier.map Prod.fst ++ tables.map TopTable.key).Nodup) (opened : List String) :
    ∃ path, Builds (tables.flatMap TopTable.text) { entries := earlier, path := opened }
      { entries := earlier ++ tables.map TopTable.held, path } := by
  induction tables generalizing earlier opened with
  | nil =>
      refine ⟨opened, ?_⟩
      rw [List.map_nil, List.append_nil]
      exact Builds.refl _
  | cons table others inductionHypothesis =>
      have fresh : IsFresh table.key earlier := by
        intro member
        exact (List.nodup_append.mp distinct).2.2 _ member _ List.mem_cons_self rfl
      have first := (builds_topTable table.bare fresh opened table.distinct).append
        (builds_blank _)
      have moved : earlier ++ (table :: others).map TopTable.held =
          earlier ++ [table.held] ++ others.map TopTable.held :=
        List.append_cons ..
      have othersDistinct :
          ((earlier ++ [table.held]).map Prod.fst ++ others.map TopTable.key).Nodup := by
        rw [List.map_append, List.append_assoc]
        exact distinct
      obtain ⟨path, further⟩ := inductionHypothesis othersDistinct [table.key]
      rw [moved]
      exact ⟨path, first.append further⟩

end ProtocolHeaders.Toml
