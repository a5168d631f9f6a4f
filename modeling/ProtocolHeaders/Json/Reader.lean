import ProtocolHeaders.Json.Number
import ProtocolHeaders.Json.Shape
import ProtocolHeaders.Json.Skip

/-!
# Reading data of a shape

The reader follows the shape that it expects and stops at the first fault. A record
may be written as an object, whose members may come in any order and among others,
or as a list of its fields in order. A name may be written as a string or as an
object with that name as its only key. Lists and objects may be nested up to
`nestingLimit`.
-/

namespace ProtocolHeaders.Json

variable {RecordName : Type}

/-- A reader takes the text from where a value begins and gives back the rest. -/
abbrev Reader (α : Type) := List Char -> Except Error (α × List Char)

/-- How deeply lists and objects may be nested. -/
def nestingLimit : Nat := 127

/-- What stands at the front of a text, and the rest; only a scalar is read. -/
def readFound (first : Char) (rest : List Char) : Except Error Found :=
  if first = 'n' then do
    let _ <- scanWord ['u', 'l', 'l'] rest
    return .null
  else if first = 't' then do
    let _ <- scanWord ['r', 'u', 'e'] rest
    return .flag true
  else if first = 'f' then do
    let _ <- scanWord ['a', 'l', 's', 'e'] rest
    return .flag false
  else if first = '-' then do
    let (number, _) <- readNumber true rest
    return number.found
  else if first.isDigit then do
    let (number, _) <- readNumber false (first :: rest)
    return number.found
  else if first = '"' then do
    let (text, _) <- scanString rest
    return .text (String.ofList text)
  else if first = '[' then return .list
  else if first = '\x7b' then return .object
  else .error (.malformed .expectedValue)

/-- The fault of a value of another type than the expected one. A value that is
itself faulty brings its own fault. -/
def unexpected {α : Type} (expected : String) (first : Char) (rest : List Char) :
    Except Error α :=
  match readFound first rest with
  | .error fault => .error fault
  | .ok found => .error (.mismatched (.invalidType found expected))

/-- The next character that matters, which has to exist. -/
def nextChar (text : List Char) : Except Error (Char × List Char) :=
  match skipSpace text with
  | [] => .error (.truncated .value)
  | first :: rest => .ok (first, rest)

/-- A text value. -/
def readText : Reader Data := fun text => do
  let (first, rest) <- nextChar text
  if first = '"' then
    let (value, rest) <- scanString rest
    return (.text (String.ofList value), rest)
  else unexpected "a string" first rest

/-- A text value or nothing. -/
def readOptionalText : Reader Data := fun text =>
  match skipSpace text with
  | 'n' :: rest => do
      let rest <- scanWord ['u', 'l', 'l'] rest
      return (.absent, rest)
  | _ => readText text

/-- A flag. -/
def readFlag : Reader Data := fun text => do
  let (first, rest) <- nextChar text
  if first = 't' then
    let rest <- scanWord ['r', 'u', 'e'] rest
    return (.flag true, rest)
  else if first = 'f' then
    let rest <- scanWord ['a', 'l', 's', 'e'] rest
    return (.flag false, rest)
  else unexpected "a boolean" first rest

/-- Counts lie below this bound. -/
def countBound : Nat := 0x100000000

/-- The count that a number is. -/
def countOf (number : Number) : Except Error Data :=
  match number with
  | .integer value =>
      if 0 <= value ∧ value < countBound then .ok (.count value.toNat)
      else .error (.mismatched (.invalidValue number.found "u32"))
  | .decimal .. => .error (.mismatched (.invalidType number.found "u32"))

/-- A count. -/
def readCount : Reader Data := fun text => do
  let (first, rest) <- nextChar text
  if first = '-' then
    let (number, rest) <- readNumber true rest
    return (<- countOf number, rest)
  else if first.isDigit then
    let (number, rest) <- readNumber false (first :: rest)
    return (<- countOf number, rest)
  else unexpected "u32" first rest

/-- The value `null`. -/
def readNull (text : List Char) : Except Error (List Char) := do
  let (first, rest) <- nextChar text
  if first = 'n' then scanWord ['u', 'l', 'l'] rest
  else unexpected "unit" first rest

/-- The variant of a name. -/
def variantOf (variants : List String) (name : String) : Except Error Data :=
  if variants.contains name then .ok (.text name)
  else .error (.mismatched (.unknownVariant name variants))

/-- Where the only key of an object begins, behind its quote. -/
def openKey (text : List Char) : Except Error (List Char) :=
  match skipSpace text with
  | [] => .error (.truncated .object)
  | c :: rest => if c = '"' then .ok rest else .error (.malformed .keyNotString)

/-- A name between quotes, from behind the first of them. -/
def readVariant (variants : List String) : Reader Data := fun text => do
  let (name, rest) <- scanString text
  return (<- variantOf variants (String.ofList name), rest)

/-- A name, between quotes or as the only key of an object that holds `null`. -/
def readChoice (mayNest : Bool) (variants : List String) : Reader Data := fun text => do
  let (first, rest) <- nextChar text
  if first = '"' then readVariant variants rest
  else if first = '\x7b' then
    if !mayNest then .error (.malformed .nestingTooDeep)
    let (variant, rest) <- readVariant variants (<- openKey rest)
    let rest <- readNull (<- scanColon rest)
    match skipSpace rest with
    | [] => .error (.truncated .object)
    | last :: rest =>
        if last = '\x7d' then return (variant, rest)
        else .error (.malformed .expectedValue)
  else .error (.malformed .expectedValue)

/-- Where the next item of a list begins, or `none` at the end of the list, which is
not taken. -/
def nextItem? (isFirst : Bool) (text : List Char) : Except Error (Option (List Char)) :=
  match skipSpace text with
  | [] => .error (.truncated .list)
  | c :: rest =>
      if c = ']' then .ok none
      else if isFirst then .ok (some (c :: rest))
      else if c = ',' then
        match skipSpace rest with
        | [] => .error (.truncated .value)
        | next :: rest =>
            if next = ']' then .error (.malformed .trailingComma) else .ok (some (next :: rest))
      else .error (.malformed .expectedListCommaOrEnd)

/-- The end of a list. -/
def closeList (text : List Char) : Except Error (List Char) :=
  match skipSpace text with
  | [] => .error (.truncated .list)
  | c :: rest =>
      if c = ']' then .ok rest
      else if c = ',' && (skipSpace rest).head? = some ']' then .error (.malformed .trailingComma)
      else .error (.malformed .trailingCharacters)

/-- The items of a list up to its end. The first argument bounds their number. -/
def readItems (item : Reader Data) :
    Nat -> Bool -> List Char -> Except Error (List Data × List Char)
  | 0, _, _ => .error (.truncated .list)
  | bound + 1, isFirst, text => do
      match <- nextItem? isFirst text with
      | none => return ([], text)
      | some text =>
          let (data, rest) <- item text
          let (others, rest) <- readItems item bound false rest
          return (data :: others, rest)

/-- The key of the next member of an object, from behind its quote, or `none` at the
end of the object, which is not taken. -/
def nextKey? (isFirst : Bool) (text : List Char) : Except Error (Option (List Char)) :=
  match skipSpace text with
  | [] => .error (.truncated .object)
  | c :: rest =>
      if c = '\x7d' then .ok none
      else if isFirst then
        if c = '"' then .ok (some rest) else .error (.malformed .keyNotString)
      else if c = ',' then
        match skipSpace rest with
        | [] => .error (.truncated .value)
        | next :: rest =>
            if next = '"' then .ok (some rest)
            else if next = '\x7d' then .error (.malformed .trailingComma)
            else .error (.malformed .keyNotString)
      else .error (.malformed .expectedObjectCommaOrEnd)

/-- The end of an object. -/
def closeObject (text : List Char) : Except Error (List Char) :=
  match skipSpace text with
  | [] => .error (.truncated .object)
  | c :: rest =>
      if c = '\x7d' then .ok rest
      else if c = ',' then .error (.malformed .trailingComma)
      else .error (.malformed .trailingCharacters)

/-- The members of an object that are fields, in the order of the text. A field may
stand only once; members that are no fields are passed over. The first argument
after the fields bounds the number of members. -/
def readMembers (read : Shape RecordName -> Reader Data) (fields : List (Field RecordName)) :
    Nat -> Bool -> List (String × Data) -> List Char ->
      Except Error (List (String × Data) × List Char)
  | 0, _, _, _ => .error (.truncated .object)
  | bound + 1, isFirst, members, text => do
      match <- nextKey? isFirst text with
      | none => return (members, text)
      | some text =>
          let (key, rest) <- scanString text
          let key := String.ofList key
          match fields.find? (·.key == key) with
          | some field =>
              if (members.lookup key).isSome then .error (.mismatched (.duplicateField key))
              let (data, rest) <- read field.shape (<- scanColon rest)
              readMembers read fields bound false ((key, data) :: members) rest
          | none =>
              let rest <- skipValue bound (<- scanColon rest)
              readMembers read fields bound false members rest

/-- The fields of a record from the members that a text has. The first required
field that is missing is a fault. -/
def fillFields (members : List (String × Data)) :
    List (Field RecordName) -> Except Error (List Data)
  | [] => .ok []
  | field :: fields =>
      match members.lookup field.key, field.default? with
      | some data, _ | none, some data => do
          return data :: (<- fillFields members fields)
      | none, none => .error (.mismatched (.missingField field.key))

/-- The fields of a record that is written as a list. -/
def readPositions (read : Shape RecordName -> Reader Data) (record : RecordShape RecordName) :
    Nat -> List (Field RecordName) -> List Char -> Except Error (List Data × List Char)
  | _, [], text => .ok ([], text)
  | position, field :: fields, text => do
      match <- nextItem? (position == 0) text with
      | some text =>
          let (data, rest) <- read field.shape text
          let (others, rest) <- readPositions read record (position + 1) fields rest
          return (data :: others, rest)
      | none =>
          match field.default? with
          | some data =>
              let (others, rest) <- readPositions read record (position + 1) fields text
              return (data :: others, rest)
          | none =>
              .error (.mismatched (.invalidLength position
                (record.title ++ " with " ++ toString record.fields.length ++ " elements")))

/-- A record, as an object or as a list. The first argument bounds the number of its
members. -/
def readRecord (bound : Nat) (read? : Option (Shape RecordName -> Reader Data))
    (record : RecordShape RecordName) : Reader Data := fun text => do
  let (first, rest) <- nextChar text
  if first = '[' then
    match read? with
    | none => .error (.malformed .nestingTooDeep)
    | some read =>
        let (fields, rest) <- readPositions read record 0 record.fields rest
        return (.record fields, <- closeList rest)
  else if first = '\x7b' then
    match read? with
    | none => .error (.malformed .nestingTooDeep)
    | some read =>
        let (members, rest) <- readMembers read record.fields bound true [] rest
        let fields <- fillFields members record.fields
        return (.record fields, <- closeObject rest)
  else unexpected record.title first rest

/-- A list. The first argument bounds the number of its items. -/
def readList (bound : Nat) (item? : Option (Reader Data)) : Reader Data := fun text => do
  let (first, rest) <- nextChar text
  if first = '[' then
    match item? with
    | none => .error (.malformed .nestingTooDeep)
    | some item =>
        let (items, rest) <- readItems item bound true rest
        return (.list items, <- closeList rest)
  else unexpected "a sequence" first rest

/-- A value of a shape, given the reader for what it nests, if it may nest. -/
def readNesting (format : Format RecordName) (bound : Nat)
    (read? : Option (Shape RecordName -> Reader Data)) : Shape RecordName -> Reader Data
  | .text => readText
  | .optionalText => readOptionalText
  | .flag => readFlag
  | .count => readCount
  | .choice variants => readChoice read?.isSome variants
  | .list item => readList bound (read?.map fun read => read item)
  | .record name => readRecord bound read? (format name)

/-- A value of a shape that nests no deeper than the argument before the shape and has
no more members than the one before that. -/
def readValue (format : Format RecordName) (bound : Nat) : Nat -> Shape RecordName -> Reader Data
  | 0 => readNesting format bound none
  | depth + 1 => readNesting format bound (some (readValue format bound depth))

/-- A whole text that holds one value of a shape. What is behind a part of the text
takes fewer steps than the whole, so one bound serves for every part. -/
def read (format : Format RecordName) (shape : Shape RecordName) (text : List Char) :
    Except Error Data := do
  let (data, rest) <- readValue format (stepsFor text) nestingLimit shape text
  if (skipSpace rest).isEmpty then return data
  else .error (.malformed .trailingCharacters)

end ProtocolHeaders.Json
