/-!
# String literals

A string literal stands between double quotes. Inside it a backslash precedes each
double quote and each backslash; all else stands for itself. A text may also be put
between quotes just as it is.
-/

namespace ProtocolHeaders.Header

/-- A character as it stands inside a string literal. -/
def escapeLiteralChar (c : Char) : List Char :=
  if c = '\\' || c = '"' then ['\\', c] else [c]

/-- A text as it stands inside a string literal. -/
def escapeLiteralChars (text : List Char) : List Char :=
  text.flatMap escapeLiteralChar

/-- A text between double quotes, nothing in it escaped. -/
def quote (text : String) : String :=
  "\"" ++ text ++ "\""

/-- A text as a string literal. -/
def literal (text : String) : String :=
  quote (String.ofList (escapeLiteralChars text.toList))

end ProtocolHeaders.Header
