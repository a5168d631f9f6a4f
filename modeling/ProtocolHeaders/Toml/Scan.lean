import ProtocolHeaders.Text.HexDigit

/-!
# Blanks, keys and strings

The smallest parts of a configuration file. A scanner takes the text from where its
part begins and gives back what it read with the rest of the text, or nothing if the
text is malformed. Strings are scanned from behind their opening quotes.
-/

namespace ProtocolHeaders.Toml

/-- The characters that may stand between the parts of a line. -/
def isSpace (c : Char) : Bool :=
  c == ' ' || c == '\t'

/-- The text from its first part on. -/
def skipSpace (text : List Char) : List Char :=
  text.dropWhile isSpace

/-- The control characters; a tab does not count as one. -/
def isControl (c : Char) : Bool :=
  (c.toNat < 0x20 && c != '\t') || c.toNat == 0x7F

/-- The text behind a line break. -/
def afterBreak? : List Char -> Option (List Char)
  | '\n' :: rest => some rest
  | '\r' :: '\n' :: rest => some rest
  | _ => none

/-- The text behind the rest of a comment and the line break that ends it. -/
def skipComment : List Char -> Option (List Char)
  | [] => some []
  | '\n' :: rest => some rest
  | '\r' :: '\n' :: rest => some rest
  | c :: rest => if isControl c then none else skipComment rest

/-- The text behind the rest of a line that holds nothing more than a comment. -/
def endLine (text : List Char) : Option (List Char) :=
  match skipSpace text with
  | [] => some []
  | '#' :: rest => skipComment rest
  | rest => afterBreak? rest

/-- The text from its first part on, across lines and comments. -/
def skipLines (inComment : Bool) : List Char -> Option (List Char)
  | [] => some []
  | '\n' :: rest => skipLines false rest
  | '\r' :: '\n' :: rest => skipLines false rest
  | c :: rest =>
      if inComment then if isControl c then none else skipLines true rest
      else if isSpace c then skipLines false rest
      else if c = '#' then skipLines true rest
      else some (c :: rest)

/-! ## Strings -/

/-- The characters that have an escape of one letter. -/
def letterEscape? : Char -> Option Char
  | 'b' => some '\x08'
  | 't' => some '\t'
  | 'n' => some '\n'
  | 'f' => some '\x0c'
  | 'r' => some '\r'
  | 'e' => some '\x1b'
  | '"' => some '"'
  | '\\' => some '\\'
  | _ => none

/-- The number that hexadecimal digits stand for. -/
def hexNumber? (digits : List Char) : Option Nat :=
  digits.foldlM (fun value digit => (Text.hexValue? digit).map (16 * value + ·)) 0

/-- The character with a code, which must not be half of a surrogate pair. -/
def charOfCode? (code : Nat) : Option Char :=
  if code.isValidChar then some (Char.ofNat code) else none

/-- The character that an escape with hexadecimal digits stands for. -/
def codeEscape? (digits : List Char) : Option Char :=
  (hexNumber? digits).bind charOfCode?

/-- A character in front of what was scanned behind it. -/
def prepend (c : Char) (scanned : Option (List Char × List Char)) :
    Option (List Char × List Char) :=
  scanned.map fun (text, rest) => (c :: text, rest)

/-- A string on one line, with escapes. -/
def scanBasic : List Char -> Option (List Char × List Char)
  | [] => none
  | '"' :: rest => some ([], rest)
  | '\\' :: 'x' :: a :: b :: rest => do prepend (<- codeEscape? [a, b]) (scanBasic rest)
  | '\\' :: 'u' :: a :: b :: c :: d :: rest => do
      prepend (<- codeEscape? [a, b, c, d]) (scanBasic rest)
  | '\\' :: 'U' :: a :: b :: c :: d :: e :: f :: g :: h :: rest => do
      prepend (<- codeEscape? [a, b, c, d, e, f, g, h]) (scanBasic rest)
  | '\\' :: letter :: rest => do prepend (<- letterEscape? letter) (scanBasic rest)
  | c :: rest => if isControl c then none else prepend c (scanBasic rest)

/-- A string on one line in which every character stands for itself. -/
def scanLiteral : List Char -> Option (List Char × List Char)
  | [] => none
  | '\'' :: rest => some ([], rest)
  | c :: rest => if isControl c then none else prepend c (scanLiteral rest)

/-- The quotes that end a text right before the three that close it: two at most. -/
def finalQuotes (quote : Char) (rest : List Char) : List Char × List Char :=
  match rest with
  | first :: second :: others =>
      if first = quote then
        if second = quote then ([quote, quote], others) else ([quote], second :: others)
      else ([], rest)
  | [first] => if first = quote then ([quote], []) else ([], rest)
  | [] => ([], [])

/-- What a scanner of a string over several lines does with blanks. -/
inductive LineState where
  /-- They are text. -/
  | text
  /-- A backslash asks to skip them, but no line break has come yet. -/
  | continued
  /-- They are skipped up to the next other character. -/
  | skipping
deriving Repr, DecidableEq

/-- A string over several lines, with escapes. A backslash at the end of a line skips
the line break and all blanks behind it. -/
def scanBasicLines (state : LineState) : List Char -> Option (List Char × List Char)
  | [] => none
  | '\n' :: rest =>
      match state with
      | .text => prepend '\n' (scanBasicLines .text rest)
      | _ => scanBasicLines .skipping rest
  | '\r' :: '\n' :: rest =>
      match state with
      | .text => prepend '\r' (prepend '\n' (scanBasicLines .text rest))
      | _ => scanBasicLines .skipping rest
  | '"' :: '"' :: '"' :: rest =>
      match state with
      | .continued => none
      | _ => some (finalQuotes '"' rest)
  | '\\' :: 'x' :: a :: b :: rest =>
      match state with
      | .continued => none
      | _ => do prepend (<- codeEscape? [a, b]) (scanBasicLines .text rest)
  | '\\' :: 'u' :: a :: b :: c :: d :: rest =>
      match state with
      | .continued => none
      | _ => do prepend (<- codeEscape? [a, b, c, d]) (scanBasicLines .text rest)
  | '\\' :: 'U' :: a :: b :: c :: d :: e :: f :: g :: h :: rest =>
      match state with
      | .continued => none
      | _ => do prepend (<- codeEscape? [a, b, c, d, e, f, g, h]) (scanBasicLines .text rest)
  | '\\' :: letter :: rest =>
      match state with
      | .continued => none
      | _ =>
          if isSpace letter then scanBasicLines .continued rest
          else if letter = '\n' then scanBasicLines .skipping rest
          else if letter = '\r' then
            match rest with
            | '\n' :: rest => scanBasicLines .skipping rest
            | _ => none
          else do prepend (<- letterEscape? letter) (scanBasicLines .text rest)
  | c :: rest =>
      match state with
      | .continued => if isSpace c then scanBasicLines .continued rest else none
      | .skipping =>
          if isSpace c then scanBasicLines .skipping rest
          else if isControl c then none
          else prepend c (scanBasicLines .text rest)
      | .text => if isControl c then none else prepend c (scanBasicLines .text rest)

/-- A string over several lines in which every character stands for itself. -/
def scanLiteralLines : List Char -> Option (List Char × List Char)
  | [] => none
  | '\n' :: rest => prepend '\n' (scanLiteralLines rest)
  | '\r' :: '\n' :: rest => prepend '\r' (prepend '\n' (scanLiteralLines rest))
  | '\'' :: '\'' :: '\'' :: rest => some (finalQuotes '\'' rest)
  | c :: rest => if isControl c then none else prepend c (scanLiteralLines rest)

/-- The text behind a line break that directly follows opening quotes. -/
def dropFirstBreak (text : List Char) : List Char :=
  (afterBreak? text).getD text

/-- A string of any of the four kinds, from its opening quotes. -/
def scanString? : List Char -> Option (List Char × List Char)
  | '"' :: '"' :: '"' :: rest => scanBasicLines .text (dropFirstBreak rest)
  | '\'' :: '\'' :: '\'' :: rest => scanLiteralLines (dropFirstBreak rest)
  | '"' :: rest => scanBasic rest
  | '\'' :: rest => scanLiteral rest
  | _ => none

/-! ## Keys -/

/-- The characters of keys without quotes. -/
def isBareKeyChar (c : Char) : Bool :=
  c.isAlphanum || c == '_' || c == '-'

/-- One part of a key: a bare one or a string on one line. -/
def scanKeyPart : List Char -> Option (List Char × List Char)
  | '"' :: rest => scanBasic rest
  | '\'' :: rest => scanLiteral rest
  | text =>
      let bare := text.takeWhile isBareKeyChar
      if bare.isEmpty then none else some (bare, text.dropWhile isBareKeyChar)

/-- Parts that points separate, at most `limit` of them. The rest of the text begins
with what follows them. -/
def scanKeyParts : (limit : Nat) -> List Char -> Option (List String × List Char)
  | 0, _ => none
  | limit + 1, text => do
      let (part, rest) <- scanKeyPart text
      match skipSpace rest with
      | '.' :: rest => do
          let (parts, rest) <- scanKeyParts limit (skipSpace rest)
          return (String.ofList part :: parts, rest)
      | rest => return ([String.ofList part], rest)

/-- How deep a key may lead, and how deep lists and tables may nest within a value. -/
def nestingLimit : Nat := 80

/-- A key of parts that points separate. -/
def scanKey (text : List Char) : Option (List String × List Char) :=
  scanKeyParts nestingLimit text

end ProtocolHeaders.Toml
