import ProtocolHeaders.Json.Shape
import ProtocolHeaders.Text.HexDigit

/-!
# Writing data of a shape

A text is written either without any space or with each member on a line of its
own. Strings escape quotes, backslashes and control characters, and nothing else.
-/

namespace ProtocolHeaders.Json

variable {RecordName : Type}

/-- A character as it stands inside a string. -/
def escapeChar (c : Char) : List Char :=
  if c = '"' then ['\\', '"']
  else if c = '\\' then ['\\', '\\']
  else if c = '\x08' then ['\\', 'b']
  else if c = '\x0c' then ['\\', 'f']
  else if c = '\n' then ['\\', 'n']
  else if c = '\r' then ['\\', 'r']
  else if c = '\t' then ['\\', 't']
  else if c.toNat < 0x20 then
    ['\\', 'u', '0', '0', Text.hexDigit (c.toNat / 16), Text.hexDigit (c.toNat % 16)]
  else [c]

/-- A text as a string. -/
def writeString (value : String) : List Char :=
  '"' :: value.toList.flatMap escapeChar ++ ['"']

/-- What separates the parts of a list or an object. -/
structure Layout where
  /-- What stands before a member or a closing bracket at a depth. -/
  lineBreak : Nat -> List Char
  /-- What stands between a key and its value. -/
  colon : List Char

namespace Layout

/-- No space at all. -/
def compact : Layout := ⟨fun _ => [], [':']⟩

/-- Each member on a line of its own, two spaces further in than its list or object. -/
def pretty : Layout := ⟨fun depth => '\n' :: List.replicate (2 * depth) ' ', [':', ' ']⟩

/-- Members between brackets. Without members the brackets touch. -/
def enclose (layout : Layout) (depth : Nat) (opener closer : Char) (members : List (List Char)) :
    List Char :=
  if members.isEmpty then [opener, closer]
  else
    opener :: layout.lineBreak (depth + 1) ++
      List.intercalate (',' :: layout.lineBreak (depth + 1)) members ++
      layout.lineBreak depth ++ [closer]

end Layout

mutual

/-- The text of a value of a shape at a depth. -/
def write (format : Format RecordName) (layout : Layout) (depth : Nat) :
    Shape RecordName -> Data -> List Char
  | .text, .text value => writeString value
  | .optionalText, .text value => writeString value
  | .flag, .flag value => (if value then "true" else "false").toList
  | .count, .count value => Nat.toDigits 10 value
  | .choice _, .text name => writeString name
  | .list item, .list items =>
      layout.enclose depth '[' ']' (writeItems format layout (depth + 1) item items)
  | .record name, .record fields =>
      layout.enclose depth '\x7b' '\x7d'
        (writeMembers format layout (depth + 1) (format name).fields fields)
  | _, _ => "null".toList

/-- The texts of the items of a list. -/
def writeItems (format : Format RecordName) (layout : Layout) (depth : Nat)
    (item : Shape RecordName) : List Data -> List (List Char)
  | [] => []
  | data :: others =>
      write format layout depth item data :: writeItems format layout depth item others

/-- The texts of the members of a record, without those that are left out. -/
def writeMembers (format : Format RecordName) (layout : Layout) (depth : Nat) :
    List (Field RecordName) -> List Data -> List (List Char)
  | field :: fields, data :: others =>
      let members := writeMembers format layout depth fields others
      if field.omitsVacant && data.isVacant then members
      else
        (writeString field.key ++ layout.colon ++ write format layout depth field.shape data) ::
          members
  | _, _ => []

end

/-- The text of a value without any space. -/
def writeCompact (format : Format RecordName) (shape : Shape RecordName) (data : Data) : String :=
  String.ofList (write format .compact 0 shape data)

/-- The text of a value with each member on a line, closed by a line break. -/
def writePretty (format : Format RecordName) (shape : Shape RecordName) (data : Data) : String :=
  String.ofList (write format .pretty 0 shape data ++ ['\n'])

end ProtocolHeaders.Json
