/-!
# Shapes of data

A format is described by the shapes of its values. A record has named fields in a
fixed order; records refer to each other by name, so a format may be recursive.
`Data` is what a text of some shape holds, once defaults are filled in: a record
is the list of its fields in order.
-/

namespace ProtocolHeaders.Json

/-- What a text holds. -/
inductive Data where
  | absent
  | text (value : String)
  | flag (value : Bool)
  | count (value : Nat)
  | list (items : List Data)
  | record (fields : List Data)
deriving Repr, Inhabited

namespace Data

/-- The empty list. -/
def none : Data := .list []

/-- Whether a value is absent or a list without items. -/
def isVacant : Data -> Bool
  | absent => true
  | list [] => true
  | _ => false

/-- The text of a text value. -/
def asText : Data -> String
  | text value => value
  | _ => ""

/-- The text of a value that may be absent. -/
def asOptionalText : Data -> Option String
  | text value => some value
  | _ => .none

/-- The value of a flag. -/
def asFlag : Data -> Bool
  | flag value => value
  | _ => false

/-- The value of a count. -/
def asCount : Data -> Nat
  | count value => value
  | _ => 0

/-- The items of a list. -/
def asList : Data -> List Data
  | list items => items
  | _ => []

/-- The field of a record at a position. -/
def field (data : Data) (position : Nat) : Data :=
  match data with
  | record fields => fields[position]?.getD absent
  | _ => absent

/-- A text that may be absent. -/
def ofOptionalText : Option String -> Data
  | some value => text value
  | .none => absent

/-- A list of texts. -/
def ofTexts (values : List String) : Data :=
  list (values.map text)

/-- The texts of a list. -/
def asTexts (data : Data) : List String :=
  data.asList.map asText

@[simp] theorem asOptionalText_ofOptionalText (value : Option String) :
    (ofOptionalText value).asOptionalText = value := by
  cases value <;> rfl

@[simp] theorem asTexts_ofTexts (values : List String) : (ofTexts values).asTexts = values := by
  simp [asTexts, ofTexts, asList, Function.comp_def, asText]

end Data

/-- The shapes of values, over the names of records. -/
inductive Shape (RecordName : Type) where
  | text
  /-- A text or nothing. -/
  | optionalText
  | flag
  /-- A whole number of 32 bits. -/
  | count
  /-- One of several names. -/
  | choice (variants : List String)
  | list (item : Shape RecordName)
  | record (name : RecordName)
deriving Repr, DecidableEq, Inhabited

/-- A field of a record. -/
structure Field (RecordName : Type) where
  key : String
  shape : Shape RecordName
  /-- The value of a field that a text does not have; without one it is required. -/
  default? : Option Data := none
  /-- Whether a vacant value is left out of a text. -/
  omitsVacant : Bool := false

namespace Field

variable {RecordName : Type}

/-- A field that a text must have. -/
def required (key : String) (shape : Shape RecordName) : Field RecordName := { key, shape }

/-- A text field, empty by default. -/
def text (key : String) : Field RecordName := { key, shape := .text, default? := some (.text "") }

/-- A flag, off by default. -/
def flag (key : String) : Field RecordName :=
  { key, shape := .flag, default? := some (.flag false) }

/-- A list, empty by default. -/
def list (key : String) (item : Shape RecordName) : Field RecordName :=
  { key, shape := .list item, default? := some .none }

/-- A list that texts leave out when it is empty. -/
def sparseList (key : String) (item : Shape RecordName) : Field RecordName :=
  { key, shape := .list item, default? := some .none, omitsVacant := true }

/-- A text that texts leave out when it is absent. -/
def optionalText (key : String) : Field RecordName :=
  { key, shape := .optionalText, default? := some .absent, omitsVacant := true }

end Field

/-- A record: the title that faults use for it, and its fields in order. -/
structure RecordShape (RecordName : Type) where
  title : String
  fields : List (Field RecordName)

/-- A format gives each record name its record. -/
abbrev Format (RecordName : Type) := RecordName -> RecordShape RecordName

end ProtocolHeaders.Json
