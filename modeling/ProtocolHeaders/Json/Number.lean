import ProtocolHeaders.Json.Scan

/-!
# Values of numbers

A number without a point and an exponent is an integer as long as it fits into
64 bits; every other number is a floating-point number.
-/

namespace ProtocolHeaders.Json

/-- The value of a number. -/
inductive Number where
  | integer (value : Int)
  | decimal (negative : Bool) (magnitude : Decimal.Binary)
deriving Repr, DecidableEq

namespace Number

/-- A number seen as what stands in a text. -/
def found : Number -> Found
  | integer value => .integer value
  | decimal negative magnitude => .decimal negative magnitude

/-- The unsigned integers of 64 bits lie below this bound. -/
def wordBound : Nat := 0x10000000000000000

/-- As many digits as an unsigned integer of 64 bits can hold, continuing a number;
the digits that do not fit are left over. -/
def takeWord (value : Nat) : List Char -> Nat × List Char
  | [] => (value, [])
  | digit :: digits =>
      let next := 10 * value + (digit.toNat - '0'.toNat)
      if next < wordBound then takeWord next digits else (value, digit :: digits)

/-- The exponents that are told apart; one beyond them is as good as infinite. -/
def exponentBound : Int := 0x80000000

/-- The floating-point value of a number. Digits that do not fit into a word only
move the point: those before the point raise the exponent, those behind it drop
out. The value of a number that is too large is a fault. -/
def decimalValue (number : NumberText) : Except Error Number :=
  let (significand, left) := takeWord 0 number.whole
  let (significand, used) : Nat × Nat :=
    match number.fraction? with
    | none => (significand, 0)
    | some digits =>
        let (significand, dropped) := takeWord significand digits
        (significand, digits.length - dropped.length)
  let exponent := number.exponent?.getD 0
  let inRange := -exponentBound < exponent ∧ exponent < exponentBound
  if ¬ inRange then
    if 0 < exponent ∧ significand ≠ 0 then .error (.malformed .numberOutOfRange)
    else .ok (.decimal number.negative .zero)
  else
    match Decimal.Binary.ofDecimal? significand (exponent + left.length - used) with
    | some magnitude => .ok (.decimal number.negative magnitude)
    | none => .error (.malformed .numberOutOfRange)

/-- The value of a number. A negative zero, and a negative integer that 64 bits
with a sign cannot hold, is a floating-point number. -/
def ofText (number : NumberText) : Except Error Number :=
  match number.fraction?, number.exponent? with
  | none, none =>
      let magnitude := Decimal.valueOf number.whole
      if number.negative then
        if 0 < magnitude ∧ magnitude ≤ 0x8000000000000000 then .ok (.integer (-(magnitude : Int)))
        else decimalValue number
      else if magnitude < wordBound then .ok (.integer magnitude)
      else decimalValue number
  | _, _ => decimalValue number

end Number

/-- A number and its value, from behind its sign. -/
def readNumber (negative : Bool) (text : List Char) : Except Error (Number × List Char) := do
  let (number, rest) <- scanNumber true negative text
  let value <- Number.ofText number
  return (value, rest)

end ProtocolHeaders.Json
