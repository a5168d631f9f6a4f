import ProtocolHeaders.Toml.Scan

/-!
# Writing configuration files

A text is written in the plainest of four forms that shows it without escapes: between
double quotes, between single quotes, or between three of either. Only a text that
none of them can show is written with escapes.
-/

namespace ProtocolHeaders.Toml

/-- The length of the longest run of a quote in a text, when a run of length `current`
comes right before it. -/
def longestRun (quote : Char) (current : Nat) : List Char -> Nat
  | [] => current
  | c :: rest =>
      if c = quote then longestRun quote (current + 1) rest
      else max current (longestRun quote 0 rest)

/-- The characters that only an escape can show. A tab and a line break are not among
them. -/
def needsEscape (c : Char) : Bool :=
  isControl c && c != '\n'

/-- The four digits of an escape for a control character. -/
def controlDigits (c : Char) : List Char :=
  ['0', '0', (Text.hexDigit (c.toNat / 16)).toUpper, (Text.hexDigit (c.toNat % 16)).toUpper]

/-- A character between double quotes, a line break and a double quote apart. -/
def escapeChar (c : Char) : List Char :=
  if c = '\x08' then ['\\', 'b']
  else if c = '\t' then ['\\', 't']
  else if c = '\x0c' then ['\\', 'f']
  else if c = '\r' then ['\\', 'r']
  else if c = '\\' then ['\\', '\\']
  else if isControl c then '\\' :: 'u' :: controlDigits c
  else [c]

/-- A text between double quotes on one line. -/
def escapeLine : List Char -> List Char
  | [] => []
  | c :: rest =>
      (if c = '"' then ['\\', '"'] else if c = '\n' then ['\\', 'n'] else escapeChar c) ++
        escapeLine rest

/-- A text between three double quotes, when `run` of them come right before it. Line
breaks stand for themselves, and so do up to two double quotes in a row. -/
def escapeLines (run : Nat) : List Char -> List Char
  | [] => []
  | c :: rest =>
      if c = '"' then
        if run < 2 then '"' :: escapeLines (run + 1) rest
        else '\\' :: '"' :: escapeLines 0 rest
      else if c = '\n' then '\n' :: escapeLines 0 rest
      else escapeChar c ++ escapeLines 0 rest

/-- Three quotes, and the line break that is skipped behind them, which sets off a text
that has line breaks itself. -/
def openLines (quote : Char) (text : List Char) : List Char :=
  if text.contains '\n' then [quote, quote, quote, '\n'] else [quote, quote, quote]

/-- A text as a string. -/
def writeText (text : List Char) : List Char :=
  let controls := text.any needsEscape
  let escapes := controls || text.contains '\\'
  let breaks := text.contains '\n'
  let doubles := longestRun '"' 0 text
  let singles := longestRun '\'' 0 text
  if !escapes && doubles = 0 && !breaks then '"' :: escapeLine text ++ ['"']
  else if !controls && singles = 0 && !breaks then '\'' :: text ++ ['\'']
  else if !escapes && doubles <= 2 then
    openLines '"' text ++ escapeLines 0 text ++ ['"', '"', '"']
  else if !controls && singles <= 2 then openLines '\'' text ++ text ++ ['\'', '\'', '\'']
  else if breaks then openLines '"' text ++ escapeLines 0 text ++ ['"', '"', '"']
  else '"' :: escapeLine text ++ ['"']

/-- A key: bare if it can be, and else a string on one line. -/
def writeKey (key : List Char) : List Char :=
  let controls := key.any isControl
  if !key.isEmpty && key.all isBareKeyChar then key
  else if !controls && !key.contains '\\' && !key.contains '"' then
    '"' :: escapeLine key ++ ['"']
  else if !controls && !key.contains '\'' then '\'' :: key ++ ['\'']
  else '"' :: escapeLine key ++ ['"']

/-- A list of texts: on one line if it has at most one item, and else with each item on
a line of its own. -/
def writeTexts : (items : List String) -> List Char
  | [] => ['[', ']']
  | [item] => '[' :: writeText item.toList ++ [']']
  | items =>
      '[' :: '\n' ::
        items.flatMap (fun item => "    ".toList ++ writeText item.toList ++ [',', '\n']) ++ [']']

/-- The line of a key and its written value. -/
def writeAssignment (key : String) (value : List Char) : List Char :=
  writeKey key.toList ++ [' ', '=', ' '] ++ value ++ ['\n']

/-- The line that opens a table with bare keys. -/
def writeHeader (path : List String) : List Char :=
  '[' :: (String.intercalate "." path).toList ++ [']', '\n']

end ProtocolHeaders.Toml
