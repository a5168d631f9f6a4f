import ProtocolHeaders.Decimal.Figures
import ProtocolHeaders.Decimal.Shortest
import ProtocolHeaders.Log.Pattern

/-!
# Values of span fields

A log filter may ask for the value of a field. What is written is read as the first of
these that it can be: a flag, a whole number, a floating-point number, a pattern. Two
values that read the same are the same value.
-/

namespace ProtocolHeaders.Log

/-- The value that a filter asks for. -/
inductive FieldValue where
  | flag (value : Bool)
  /-- A number below two to the power of 64. -/
  | natural (value : Nat)
  /-- A number that has a sign and fits into 64 bits with it. -/
  | integer (value : Int)
  /-- A floating-point number, which is infinite without a magnitude. -/
  | decimal (negative : Bool) (magnitude? : Option Decimal.Binary)
  | notANumber
  | pattern (text : String)
deriving Repr, DecidableEq, Inhabited

namespace FieldValue

/-! ## Reading -/

/-- A whole number within 64 bits. A plus sign does not count. -/
def whole? (text : List Char) : Option FieldValue := do
  let (negative, digits) := Decimal.splitSign text
  let value <- Decimal.natural? digits
  if negative then if value <= 0x8000000000000000 then some (.integer (-(value : Int))) else none
  else if value < 0x10000000000000000 then some (.natural value)
  else none

/-- An exponent: nothing, or a letter and a whole number. -/
def exponent? : List Char -> Option Int
  | [] => some 0
  | letter :: rest => if letter = 'e' || letter = 'E' then Decimal.integer? rest else none

/-- The magnitude of a decimal number, which is infinite if it is too large. Digits may
be missing on one side of the point. -/
def magnitude? (unsigned : List Char) : Option (Option Decimal.Binary) := do
  let whole := unsigned.takeWhile Char.isDigit
  let (fraction, rest) :=
    match unsigned.dropWhile Char.isDigit with
    | '.' :: rest => (rest.takeWhile Char.isDigit, rest.dropWhile Char.isDigit)
    | rest => ([], rest)
  if whole.isEmpty && fraction.isEmpty then none
  let exponent <- exponent? rest
  let significand := Decimal.valueOf (whole ++ fraction)
  return Decimal.Binary.ofScientific? significand (exponent - fraction.length)

/-- A floating-point number, in figures or by a name whose case does not count. -/
def decimal? (text : List Char) : Option FieldValue :=
  let (negative, unsigned) := Decimal.splitSign text
  let name := String.ofList (unsigned.map Char.toLower)
  if name = "nan" then some .notANumber
  else if name = "inf" || name = "infinity" then some (.decimal negative none)
  else (magnitude? unsigned).map (.decimal negative)

/-- A flag. -/
def flag? (text : List Char) : Option FieldValue :=
  if text = "true".toList then some (.flag true)
  else if text = "false".toList then some (.flag false)
  else none

/-- A pattern, if it is well formed. -/
def pattern? (text : List Char) : Option FieldValue :=
  if Pattern.isWellFormed text then some (.pattern (String.ofList text)) else none

/-- Read a value. -/
def read? (text : List Char) : Option FieldValue :=
  flag? text <|> whole? text <|> decimal? text <|> pattern? text

/-! ## Writing and ordering -/

/-- A value in a directive. -/
def text : FieldValue -> String
  | flag value => if value then "true" else "false"
  | natural value => toString value
  | integer value => toString value
  | decimal negative magnitude? =>
      (if negative then "-" else "") ++
        match magnitude? with
        | some magnitude => Decimal.positionalText magnitude
        | none => "inf"
  | notANumber => "NaN"
  | pattern written => written

/-- The kinds of values in their order. -/
def rank : FieldValue -> Nat
  | flag _ => 0
  | decimal _ _ => 1
  | notANumber => 2
  | natural _ => 3
  | integer _ => 4
  | pattern _ => 5

/-- Which of two magnitudes is larger; nothing is larger than an infinite one. -/
def compareMagnitudes : (left right : Option Decimal.Binary) -> Ordering
  | none, none => .eq
  | none, some _ => .gt
  | some _, none => .lt
  | some left, some right => left.compare right

/-- Whether a floating-point number lies below zero; a negative zero does not. -/
def isBelowZero (negative : Bool) (magnitude? : Option Decimal.Binary) : Bool :=
  negative && magnitude?.all fun magnitude => magnitude.mantissa != 0

/-- Values compare by their kinds, then by size or, for patterns, by their texts. -/
def compare : (left right : FieldValue) -> Ordering
  | flag left, flag right => Ord.compare left right
  | natural left, natural right => Ord.compare left right
  | integer left, integer right => Ord.compare left right
  | pattern left, pattern right => Ord.compare left right
  | decimal leftNegative left, decimal rightNegative right =>
      match isBelowZero leftNegative left, isBelowZero rightNegative right with
      | false, false => compareMagnitudes left right
      | true, true => compareMagnitudes right left
      | true, false => .lt
      | false, true => .gt
  | left, right => Ord.compare left.rank right.rank

end FieldValue

end ProtocolHeaders.Log
