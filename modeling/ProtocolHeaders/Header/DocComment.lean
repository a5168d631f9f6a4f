import ProtocolHeaders.Text.Blank
import ProtocolHeaders.Text.Segment

/-!
# Documentation comments

Documentation stands in a block comment, one line of the comment for each line of
the text from its first line that is not blank to its last. The end of a comment
inside the text is broken up, so the block ends where it is meant to.
-/

namespace ProtocolHeaders.Header

/-- A text with a space inside every end of a block comment. -/
def breakTerminators : List Char -> List Char
  | '*' :: '/' :: others => '*' :: ' ' :: '/' :: breakTerminators others
  | c :: others => c :: breakTerminators others
  | [] => []

/-- A line as it stands in a comment: without trailing blanks or ends of comments. -/
def docLineChars (line : List Char) : List Char :=
  breakTerminators (Text.trimEnd line)

/-- A line as it stands in a comment. -/
def docLine (line : String) : String :=
  String.ofList (docLineChars line.toList)

/-- The lines of a text from the first that is not blank to the last. -/
def documentedLines (text : List Char) : List (List Char) :=
  (((Text.lines text).dropWhile Text.onlyBlanks).reverse.dropWhile Text.onlyBlanks).reverse

/-- A line of a comment: a star, and the line of the text if it is not blank. -/
def commentLine (indent line : List Char) : List Char :=
  let sanitized := docLineChars line
  if Text.onlyBlanks sanitized then indent ++ [' ', '*', '\n']
  else indent ++ [' ', '*', ' '] ++ sanitized ++ ['\n']

/-- The comment for a text. A blank text has none. -/
def docCommentChars (text indent : List Char) : List Char :=
  let lines := documentedLines text
  if lines.isEmpty then []
  else
    indent ++ ['/', '*', '*', '\n'] ++ lines.flatMap (commentLine indent) ++
      indent ++ [' ', '*', '/', '\n']

/-- The comment for a text, each line behind an indent. A blank text has none. -/
def docComment (text indent : String) : String :=
  String.ofList (docCommentChars text.toList indent.toList)

end ProtocolHeaders.Header
