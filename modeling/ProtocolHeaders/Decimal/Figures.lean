/-!
# Numbers in figures

Whole numbers as they are written in base ten, with ASCII digits and perhaps a sign.
-/

namespace ProtocolHeaders.Decimal

/-- The number that a sequence of digits stands for. -/
def valueOf (digits : List Char) : Nat :=
  digits.foldl (fun value digit => 10 * value + (digit.toNat - '0'.toNat)) 0

/-- The number that a text of digits stands for. -/
def natural? (text : List Char) : Option Nat :=
  if !text.isEmpty && text.all Char.isDigit then some (valueOf text) else none

/-- A text without its sign, and whether that is a minus. -/
def splitSign : List Char -> Bool × List Char
  | '-' :: rest => (true, rest)
  | '+' :: rest => (false, rest)
  | text => (false, text)

/-- The number that digits stand for, perhaps behind a sign. -/
def integer? (text : List Char) : Option Int :=
  let (negative, digits) := splitSign text
  (natural? digits).map fun value => if negative then -(value : Int) else value

end ProtocolHeaders.Decimal
