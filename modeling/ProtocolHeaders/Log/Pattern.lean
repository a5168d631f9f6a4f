import ProtocolHeaders.Text.Blank
import ProtocolHeaders.Text.DecimalDigit
import ProtocolHeaders.Text.HexDigit
import ProtocolHeaders.Text.Letter

/-!
# Patterns of field values

A pattern is a regular expression: alternatives of sequences of items, which may be
repeated. An item is a character, an escape, a class of characters between brackets, or
a group between parentheses. `isWellFormed` tells whether a text is a pattern that can
be matched; nothing is matched here. A pattern stands between the braces of a directive
and has no closing brace, so that an opening one is never closed either.

A scanner takes the text from where its part begins and gives back the rest, or nothing
if the part is malformed. The depth of a part counts the repetitions, groups, classes,
sequences and alternatives that nest within each other.
-/

namespace ProtocolHeaders.Log.Pattern

/-- How deep a pattern may nest. -/
def nestingLimit : Nat := 250

/-- The modes that flags switch. -/
structure Mode where
  /-- Blanks and comments stand for nothing. -/
  verbose : Bool := false
  /-- Characters beyond ASCII can be matched by classes. -/
  unicode : Bool := true
deriving Repr, DecidableEq

/-- A text from its first character on that is neither a blank nor part of a comment. -/
def skipBlanks : (inComment : Bool) -> List Char -> List Char
  | _, [] => []
  | true, c :: rest => skipBlanks (c != '\n') rest
  | false, c :: rest =>
      if Text.isBlank c then skipBlanks false rest
      else if c = '#' then skipBlanks true rest
      else c :: rest

/-- A text from its first character on that counts. -/
def Mode.skip (mode : Mode) (text : List Char) : List Char :=
  if mode.verbose then skipBlanks false text else text

/-! ## Escapes -/

/-- What an escape, or a character that stands for itself, is. -/
inductive Symbol where
  | character (c : Char)
  /-- A class of characters with a name of its own. -/
  | shorthand
  /-- A condition on the place where it stands. -/
  | assertion
deriving Repr, DecidableEq

/-- The number that a given count of hexadecimal digits continues. -/
def scanHexDigits (mode : Mode) : (count value : Nat) -> List Char -> Option (Nat × List Char)
  | 0, value, text => some (value, text)
  | count + 1, value, text =>
      match mode.skip text with
      | [] => none
      | digit :: rest => do
          scanHexDigits mode count (16 * value + (<- Text.hexValue? digit)) rest

/-- A character given by the hexadecimal digits of its number. -/
def scanCode (mode : Mode) (count : Nat) (text : List Char) : Option (Symbol × List Char) := do
  let (value, rest) <- scanHexDigits mode count 0 text
  if value.isValidChar then return (.character (Char.ofNat value), rest) else none

/-- The letters of the categories of characters, whose case does not count. -/
def isCategory (c : Char) : Bool :=
  ['c', 'l', 'm', 'n', 'p', 's', 'z'].contains c.toLower

/-- The control characters that have an escape of one letter. -/
def controlEscape? : Char -> Option Char
  | 'a' => some '\x07'
  | 'f' => some '\x0c'
  | 'n' => some '\n'
  | 'r' => some '\r'
  | 't' => some '\t'
  | 'v' => some '\x0b'
  | _ => none

/-- An escape, from behind its backslash. A condition on words needs a mode without
characters beyond ASCII, and an escape that excludes characters needs one with them. -/
def scanEscape (mode : Mode) : List Char -> Option (Symbol × List Char)
  | [] => none
  | 'x' :: rest => do
      let (value, after) <- scanHexDigits mode 2 0 rest
      if mode.unicode || value < 0x80 then return (.character (Char.ofNat value), after) else none
  | 'u' :: rest => scanCode mode 4 rest
  | 'U' :: rest => scanCode mode 8 rest
  | c :: rest =>
      if c = 'p' || c = 'P' then
        match mode.skip rest with
        | category :: rest =>
            if mode.unicode && isCategory category then some (.shorthand, rest) else none
        | [] => none
      else if ['d', 's', 'w'].contains c then some (.shorthand, rest)
      else if ['D', 'S', 'W'].contains c then
        if mode.unicode then some (.shorthand, rest) else none
      else if ['b', 'B', '<', '>'].contains c then
        if mode.unicode then none else some (.assertion, rest)
      else if c = 'A' || c = 'z' then some (.assertion, rest)
      else
        match controlEscape? c with
        | some control => some (.character control, rest)
        | none =>
            if c.toNat < 0x80 && !c.isAlphanum then some (.character c, rest) else none

/-! ## Classes -/

/-- The depth of parts that follow each other: a single part stands for itself. -/
def joinedDepth : List Nat -> Nat
  | [] => 0
  | [depth] => depth
  | depths => depths.foldl max 0 + 1

/-- A member of a class: an escape or a character. -/
def scanMember (mode : Mode) : List Char -> Option (Symbol × List Char)
  | [] => none
  | '\\' :: rest => scanEscape mode rest
  | c :: rest => some (.character c, rest)

/-- Whether a symbol may be a member of a class. -/
def fitsClass (mode : Mode) : Symbol -> Bool
  | .character c => mode.unicode || c.toNat < 0x80
  | .shorthand => true
  | .assertion => false

/-- Whether two symbols bound a range of characters. -/
def isRange : (first last : Symbol) -> Bool
  | .character first, .character last => first <= last
  | _, _ => false

/-- A member of a class, or two with a hyphen between them. A hyphen before the end of
the class or before another hyphen does not belong to the member in front of it. -/
def scanRange (mode : Mode) (text : List Char) : Option (List Char) := do
  let (first, rest) <- scanMember mode text
  if !fitsClass mode first then none
  match mode.skip rest with
  | '-' :: afterHyphen =>
      match mode.skip afterHyphen with
      | ']' :: _ => return '-' :: afterHyphen
      | '-' :: _ => return '-' :: afterHyphen
      | text => do
          let (last, rest) <- scanMember mode text
          if fitsClass mode last && isRange first last then return rest else none
  | [] => none
  | rest => return rest

/-- The names of the classes of ASCII characters. -/
def asciiClasses : List String :=
  ["alnum", "alpha", "ascii", "blank", "cntrl", "digit", "graph", "lower", "print", "punct",
    "space", "upper", "word", "xdigit"]

/-- The text behind a named class of ASCII characters, from behind its bracket. -/
def afterAsciiClass? (mode : Mode) (text : List Char) : Option (List Char) :=
  match text with
  | ':' :: text =>
      let (negated, text) : Bool × List Char :=
        match text with
        | '^' :: rest => (true, rest)
        | text => (false, text)
      match text.dropWhile (· != ':') with
      | ':' :: ']' :: rest =>
          if asciiClasses.contains (String.ofList (text.takeWhile (· != ':'))) &&
              (mode.unicode || !negated) then
            some rest
          else none
      | _ => none
  | _ => none

/-- What was read of a class so far. -/
structure ClassProgress where
  /-- Nothing but hyphens was read. -/
  atFront : Bool := true
  /-- The depths of the members since the last operator. -/
  members : List Nat := []
  /-- The depth of all that stands before the last operator. -/
  operand? : Option Nat := none

namespace ClassProgress

/-- The depth of the sets that were read so far. -/
def depth (progress : ClassProgress) : Nat :=
  match progress.operand? with
  | none => joinedDepth progress.members
  | some operand => max operand (joinedDepth progress.members) + 1

/-- A class with a member more. -/
def add (progress : ClassProgress) (depth : Nat) : ClassProgress :=
  { progress with atFront := false, members := depth :: progress.members }

/-- A class with a hyphen more that stands for itself. -/
def addHyphen (progress : ClassProgress) : ClassProgress :=
  { progress with members := 0 :: progress.members }

/-- A class whose members so far are one side of an operator. -/
def operate (progress : ClassProgress) : ClassProgress :=
  { atFront := false, operand? := some progress.depth }

/-- Whether a bracket that closes would stand for itself. -/
def isEmpty (progress : ClassProgress) : Bool :=
  progress.atFront && progress.members.isEmpty

end ClassProgress

/-- Whether two characters in a class are an operator on sets. -/
def isOperator (first second : Char) : Bool :=
  first = second && ['&', '-', '~'].contains first

/-- The members of a class up to its end, at most `fuel` of them, with the depth of the
class. Classes within it are read by `inner` from behind their brackets. -/
def scanMembers (inner : List Char -> Option (Nat × List Char)) (mode : Mode) :
    (fuel : Nat) -> ClassProgress -> List Char -> Option (Nat × List Char)
  | 0, _, _ => none
  | fuel + 1, progress, text => do
      match mode.skip text with
      | [] => none
      | first :: rest =>
          if first = ']' then
            if progress.isEmpty then scanMembers inner mode fuel (progress.add 0) rest
            else return (progress.depth + 1, rest)
          else if first = '-' && progress.atFront then
            scanMembers inner mode fuel progress.addHyphen rest
          else if first = '[' then
            match afterAsciiClass? mode rest with
            | some rest => scanMembers inner mode fuel (progress.add 0) rest
            | none => do
                let (depth, rest) <- inner rest
                scanMembers inner mode fuel (progress.add depth) rest
          else if rest.head?.any (isOperator first) then
            scanMembers inner mode fuel progress.operate (rest.drop 1)
          else scanMembers inner mode fuel (progress.add 0) (<- scanRange mode (first :: rest))

/-- A class from behind its bracket, with classes less than `depth` deep within it, each
of at most `bound` members. A class that excludes characters needs a mode with
characters beyond ASCII. -/
def scanClass (mode : Mode) (bound : Nat) :
    (depth : Nat) -> List Char -> Option (Nat × List Char)
  | 0, _ => none
  | depth + 1, text =>
      let members := scanMembers (scanClass mode bound depth) mode bound {}
      match mode.skip text with
      | '^' :: rest => if mode.unicode then members rest else none
      | rest => members rest

/-! ## Groups -/

/-- The letters of flags. -/
def isFlag (c : Char) : Bool :=
  ['i', 'm', 's', 'U', 'u', 'R', 'x'].contains c

/-- The flags of a group up to the character that ends them, given whether a minus came
before, whether it came right before, and the flags that were read. -/
def scanFlags (negated dangling : Bool) (seen : List Char) (mode : Mode) :
    List Char -> Option (Mode × List Char × List Char)
  | [] => none
  | c :: rest =>
      if c = ':' || c = ')' then if dangling then none else some (mode, seen, c :: rest)
      else if c = '-' then if negated then none else scanFlags true true seen mode rest
      else if seen.contains c || !isFlag c then none
      else
        let mode : Mode :=
          if c = 'x' then { mode with verbose := !negated }
          else if c = 'u' then { mode with unicode := !negated }
          else mode
        scanFlags negated false (c :: seen) mode rest

/-- Whether a text is a name of a group. -/
def isGroupName : List Char -> Bool
  | [] => false
  | first :: rest =>
      (first == '_' || (Text.isAlphanumeric first && !Text.isDecimalDigit first)) &&
        rest.all fun c => ['_', '.', '[', ']'].contains c || Text.isAlphanumeric c

/-- What a parenthesis opens. -/
inductive Opening where
  /-- Flags for the rest of the group around it; nothing is opened. -/
  | switch (mode : Mode)
  /-- A group, which may have a name. -/
  | group (mode : Mode) (name? : Option (List Char))

/-- The name of a group, from behind its bracket. -/
def scanName (mode : Mode) (text : List Char) : Option (Opening × List Char) :=
  let name := text.takeWhile (· != '>')
  match text.dropWhile (· != '>') with
  | _ :: rest => if isGroupName name then some (.group mode (some name), rest) else none
  | [] => none

/-- What a parenthesis opens, from behind it. -/
def scanOpening (mode : Mode) (text : List Char) : Option (Opening × List Char) :=
  match mode.skip text with
  | '?' :: 'P' :: '<' :: rest => scanName mode rest
  | '?' :: '<' :: rest => scanName mode rest
  | '?' :: rest => do
      let (mode, flags, rest) <- scanFlags false false [] mode rest
      match rest with
      | ':' :: rest => return (.group mode none, rest)
      | _ => if flags.isEmpty then none else return (.switch mode, rest.drop 1)
  | rest => some (.group mode none, rest)

/-- What was read of a group so far. -/
structure GroupProgress where
  mode : Mode
  /-- The names of all groups of the pattern. -/
  names : List (List Char)
  /-- The depths of the items since the last bar, the last one first. Flags have none. -/
  items : List (Option Nat) := []
  /-- The depths of the alternatives before the last bar. -/
  alternatives : List Nat := []

namespace GroupProgress

/-- The depth of the last alternative. -/
def sequenceDepth (progress : GroupProgress) : Nat :=
  joinedDepth (progress.items.map (·.getD 0))

/-- The depth of the alternatives. -/
def depth (progress : GroupProgress) : Nat :=
  joinedDepth (progress.sequenceDepth :: progress.alternatives)

/-- A group with an item more. -/
def add (progress : GroupProgress) (depth : Nat) : GroupProgress :=
  { progress with items := some depth :: progress.items }

/-- A group with its last item repeated; there has to be one. -/
def repeatLast? (progress : GroupProgress) : Option GroupProgress :=
  match progress.items with
  | some depth :: others => some { progress with items := some (depth + 1) :: others }
  | _ => none

/-- A group with another alternative begun. -/
def alternate (progress : GroupProgress) : GroupProgress :=
  { progress with items := [], alternatives := progress.sequenceDepth :: progress.alternatives }

end GroupProgress

/-- The text behind a question mark, if it begins with one. -/
def dropQuestionMark : List Char -> List Char
  | '?' :: rest => rest
  | text => text

/-- The items of a group up to the parenthesis that closes it or the end of the text, at
most `fuel` of them, with the depth of the group and the names of all groups. Groups
within it are read by `inner` from behind what opens them; classes have at most `bound`
members. -/
def scanItems (bound : Nat)
    (inner : GroupProgress -> List Char -> Option (Nat × List (List Char) × List Char)) :
    (fuel : Nat) -> GroupProgress -> List Char -> Option (Nat × List (List Char) × List Char)
  | 0, _, _ => none
  | fuel + 1, progress, text => do
      match progress.mode.skip text with
      | [] => return (progress.depth, progress.names, [])
      | c :: rest =>
          if c = ')' then return (progress.depth, progress.names, c :: rest)
          else if c = '(' then
            match <- scanOpening progress.mode rest with
            | (.switch mode, rest) =>
                scanItems bound inner fuel { progress with mode, items := none :: progress.items }
                  rest
            | (.group mode name?, rest) => do
                if name?.any progress.names.contains then none
                let names := name?.toList ++ progress.names
                match <- inner { mode, names } rest with
                | (depth, names, ')' :: rest) =>
                    scanItems bound inner fuel ({ progress with names }.add (depth + 1)) rest
                | _ => none
          else if c = '|' then scanItems bound inner fuel progress.alternate rest
          else if c = '[' then do
            let (depth, rest) <- scanClass progress.mode bound nestingLimit rest
            scanItems bound inner fuel (progress.add depth) rest
          else if c = '?' || c = '*' || c = '+' then do
            scanItems bound inner fuel (<- progress.repeatLast?) (dropQuestionMark rest)
          else if c = '\\' then do
            let (_, rest) <- scanEscape progress.mode rest
            scanItems bound inner fuel (progress.add 0) rest
          else if c = '\x7b' || (c = '.' && !progress.mode.unicode) then none
          else scanItems bound inner fuel (progress.add 0) rest

/-- The items of a group with groups less than `depth` deep within it, each of at most
`bound` items. -/
def scanGroup (bound : Nat) :
    (depth : Nat) -> GroupProgress -> List Char -> Option (Nat × List (List Char) × List Char)
  | 0, _, _ => none
  | depth + 1, progress, text => scanItems bound (scanGroup bound depth) bound progress text

/-- Whether a text is a pattern. -/
def isWellFormed (text : List Char) : Bool :=
  match scanGroup (text.length + 1) (nestingLimit + 1) { mode := {}, names := [] } text with
  | some (depth, _, []) => depth <= nestingLimit
  | _ => false

end ProtocolHeaders.Log.Pattern
