import ProtocolHeaders.Decimal.Shortest
import ProtocolHeaders.Text.Quoted

/-!
# Reading faults

Reading stops at the first fault in the text. A text may be cut short, it may be
malformed, or it may be well written but of another shape than the reader
expects. Only the last kind says what it found.
-/

namespace ProtocolHeaders.Json

/-- What was being read when the text ended. -/
inductive Truncation where
  | list
  | object
  | string
  | value
deriving Repr, DecidableEq

/-- What is wrong with the writing of a text. -/
inductive Malformation where
  | expectedColon
  | expectedListCommaOrEnd
  | expectedObjectCommaOrEnd
  | expectedWord
  | expectedValue
  | invalidEscape
  | invalidNumber
  | numberOutOfRange
  /-- A control character stands inside a string without an escape. -/
  | bareControl
  | keyNotString
  /-- Half of a surrogate pair is escaped without the other half. -/
  | loneSurrogate
  /-- The first half of a surrogate pair is followed by no escape at all. -/
  | unfinishedSurrogatePair
  | trailingComma
  | trailingCharacters
  | nestingTooDeep
deriving Repr, DecidableEq

/-- What stands in the text where something else was expected. -/
inductive Found where
  | null
  | flag (value : Bool)
  | integer (value : Int)
  | decimal (negative : Bool) (magnitude : Decimal.Binary)
  | text (value : String)
  | list
  | object
deriving Repr, DecidableEq

/-- How a well-written text differs from the expected shape. -/
inductive Mismatch where
  | invalidType (found : Found) (expected : String)
  | invalidValue (found : Found) (expected : String)
  /-- A record written as a list ends before a field that has no default. -/
  | invalidLength (length : Nat) (expected : String)
  | unknownVariant (name : String) (variants : List String)
  | missingField (key : String)
  | duplicateField (key : String)
deriving Repr, DecidableEq

/-- The first fault of a text. -/
inductive Error where
  | truncated (within : Truncation)
  | malformed (fault : Malformation)
  | mismatched (difference : Mismatch)
deriving Repr, DecidableEq

/-- The text shown for a text that ends too early. -/
def Truncation.message : Truncation -> String
  | list => "EOF while parsing a list"
  | object => "EOF while parsing an object"
  | string => "EOF while parsing a string"
  | value => "EOF while parsing a value"

/-- The text shown for a text that is badly written. -/
def Malformation.message : Malformation -> String
  | expectedColon => "expected `:`"
  | expectedListCommaOrEnd => "expected `,` or `]`"
  | expectedObjectCommaOrEnd => "expected `,` or `\x7d`"
  | expectedWord => "expected ident"
  | expectedValue => "expected value"
  | invalidEscape => "invalid escape"
  | invalidNumber => "invalid number"
  | numberOutOfRange => "number out of range"
  | bareControl => "control character (\\u0000-\\u001F) found while parsing a string"
  | keyNotString => "key must be a string"
  | loneSurrogate => "lone leading surrogate in hex escape"
  | unfinishedSurrogatePair => "unexpected end of hex escape"
  | trailingComma => "trailing comma"
  | trailingCharacters => "trailing characters"
  | nestingTooDeep => "recursion limit exceeded"

/-- The text shown for what stands in a text. -/
def Found.message : Found -> String
  | null => "null"
  | flag value => "boolean `" ++ (if value then "true" else "false") ++ "`"
  | integer value => "integer `" ++ toString value ++ "`"
  | decimal negative magnitude =>
      "floating point `" ++ Decimal.floatText negative magnitude ++ "`"
  | text value => "string " ++ Text.quoted value
  | list => "sequence"
  | object => "map"

/-- The names of the variants that are allowed, each between backticks. -/
def variantList (variants : List String) : String :=
  match variants.map fun name => "`" ++ name ++ "`" with
  | [] => "there are no variants"
  | [only] => "expected " ++ only
  | [first, second] => "expected " ++ first ++ " or " ++ second
  | names => "expected one of " ++ String.intercalate ", " names

/-- The text shown for data that is not of the expected shape. -/
def Mismatch.message : Mismatch -> String
  | invalidType found expected =>
      "invalid type: " ++ found.message ++ ", expected " ++ expected
  | invalidValue found expected =>
      "invalid value: " ++ found.message ++ ", expected " ++ expected
  | invalidLength length expected =>
      "invalid length " ++ toString length ++ ", expected " ++ expected
  | unknownVariant name variants =>
      "unknown variant `" ++ name ++ "`, " ++ variantList variants
  | missingField key => "missing field `" ++ key ++ "`"
  | duplicateField key => "duplicate field `" ++ key ++ "`"

/-- The text shown for a fault. -/
def Error.message : Error -> String
  | truncated within => within.message
  | malformed fault => fault.message
  | mismatched difference => difference.message

end ProtocolHeaders.Json
