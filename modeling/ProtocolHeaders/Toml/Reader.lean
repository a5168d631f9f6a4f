import ProtocolHeaders.Toml.Document
import ProtocolHeaders.Toml.Moment
import ProtocolHeaders.Toml.Number
import ProtocolHeaders.Toml.Scan

/-!
# Reading configuration files

A file is a sequence of lines, each with a header, an assignment or nothing but a
comment. Values may go on over several lines. Lists and tables within values nest up
to a depth, which bounds the recursion; loops along the text are bounded by its length.
-/

namespace ProtocolHeaders.Toml

/-! ## Values -/

/-- The characters of values without quotes or brackets. -/
def isWordChar (c : Char) : Bool :=
  !(isSpace c || ['\n', '\r', '#', ',', '=', '"', '\'', '[', ']', '\x7b', '\x7d'].contains c)

/-- A value without quotes or brackets, with what follows it. A date and a time may be
parted by one space. -/
def splitWord (text : List Char) : List Char × List Char :=
  let word := text.takeWhile isWordChar
  match text.dropWhile isWordChar with
  | ' ' :: digit :: rest =>
      if Moment.isDate word && digit.isDigit then
        (word ++ ' ' :: (digit :: rest).takeWhile isWordChar,
          (digit :: rest).dropWhile isWordChar)
      else (word, ' ' :: digit :: rest)
  | rest => (word, rest)

/-- The value of a word. -/
def wordValue? (word : List Char) : Option Value :=
  if word = "true".toList then some (.flag true)
  else if word = "false".toList then some (.flag false)
  else
    match Number.read? word with
    | some (.integer value) => some (.integer value)
    | some .decimal => some (.decimal (String.ofList word))
    | some .unreadable => some (.unreadable (String.ofList word))
    | none => (Moment.read? word).map .moment

/-- The items of a list from the first of them or the closing bracket on, at most
`fuel` of them. A comma may follow the last item. -/
def scanItems (item : List Char -> Option (Value × List Char)) :
    (fuel : Nat) -> List Char -> Option (List Value × List Char)
  | 0, _ => none
  | fuel + 1, text => do
      match <- skipLines false text with
      | ']' :: rest => return ([], rest)
      | text => do
          let (first, rest) <- item text
          match <- skipLines false rest with
          | ',' :: rest => do
              let (others, rest) <- scanItems item fuel rest
              return (first :: others, rest)
          | ']' :: rest => return ([first], rest)
          | _ => none

/-- A key and its value, with what may be skipped before and behind the equals sign.
The rest of the text begins right behind the value. -/
def scanAssignment (skip : List Char -> Option (List Char))
    (item : List Char -> Option (Value × List Char)) (text : List Char) :
    Option (List String × Value × List Char) := do
  let (key, rest) <- scanKey text
  match <- skip rest with
  | '=' :: rest => do
      let (value, rest) <- item (<- skip rest)
      return (key, value, rest)
  | _ => none

/-- The assignments within braces from the first of them or the closing brace on, at
most `fuel` of them, added to entries. They may go on over several lines, and a comma
may follow the last one. -/
def scanEntries (item : List Char -> Option (Value × List Char)) :
    (fuel : Nat) -> Document -> List Char -> Option (Document × List Char)
  | 0, _, _ => none
  | fuel + 1, document, text => do
      match <- skipLines false text with
      | '\x7d' :: rest => return (document, rest)
      | text => do
          let (key, value, rest) <- scanAssignment (skipLines false) item text
          let document <- document.assign key value
          match <- skipLines false rest with
          | ',' :: rest => scanEntries item fuel document rest
          | '\x7d' :: rest => return (document, rest)
          | _ => none

/-- A value in which lists and tables nest at most `depth` deep and have at most `bound`
parts. -/
def scanValue (bound : Nat) : (depth : Nat) -> List Char -> Option (Value × List Char)
  | _, '"' :: rest => do
      let (text, rest) <- scanString? ('"' :: rest)
      return (.text (String.ofList text), rest)
  | _, '\'' :: rest => do
      let (text, rest) <- scanString? ('\'' :: rest)
      return (.text (String.ofList text), rest)
  | 0, '[' :: _ => none
  | depth + 1, '[' :: rest => do
      let (items, rest) <- scanItems (scanValue bound depth) bound rest
      return (.list items, rest)
  | 0, '\x7b' :: _ => none
  | depth + 1, '\x7b' :: rest => do
      let (document, rest) <- scanEntries (scanValue bound depth) bound {} rest
      return (.table document.toTable, rest)
  | _, text => do
      let (word, rest) := splitWord text
      return (<- wordValue? word, rest)

/-! ## Lines -/

/-- The header of a table or of an element of a list of tables, from behind its first
bracket. The rest of the text begins right behind the header. -/
def scanHeader (document : Document) (text : List Char) : Option (Document × List Char) := do
  match text with
  | '[' :: text => do
      match <- scanKey (skipSpace text) with
      | (key, ']' :: ']' :: rest) => return (<- document.addElement key, rest)
      | _ => none
  | text => do
      match <- scanKey (skipSpace text) with
      | (key, ']' :: rest) => return (<- document.openTable key, rest)
      | _ => none

/-- What the first part of a line, a header or an assignment, adds to a document. Lists
and tables within a value have at most `bound` parts. -/
def scanStatement (bound : Nat) (document : Document) (text : List Char) :
    Option (Document × List Char) :=
  match text with
  | '[' :: rest => scanHeader document rest
  | text => do
      let (key, value, rest) <-
        scanAssignment (fun text => some (skipSpace text)) (scanValue bound nestingLimit) text
      return (<- document.assign key value, rest)

/-- The document of the lines of a text, at most `fuel` of them with a statement. -/
def scanStatements (bound : Nat) : (fuel : Nat) -> Document -> List Char -> Option Document
  | 0, _, _ => none
  | fuel + 1, document, text => do
      match <- skipLines false text with
      | [] => return document
      | text => do
          let (document, rest) <- scanStatement bound document text
          scanStatements bound fuel document (<- endLine rest)

/-- A text without the mark of its encoding, which may stand at its front. -/
def dropByteOrderMark : List Char -> List Char
  | '\uFEFF' :: rest => rest
  | text => text

/-- Read a configuration file. Neither it nor a value in it has more parts than it has
characters. -/
def read? (text : String) : Option Table := do
  let text := dropByteOrderMark text.toList
  let bound := text.length + 1
  return (<- scanStatements bound bound {} text).toTable

end ProtocolHeaders.Toml
