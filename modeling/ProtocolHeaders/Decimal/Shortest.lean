import ProtocolHeaders.Decimal.Binary

/-!
# Shortest decimal texts

The text of a floating-point number has the fewest significant digits that still
identify it, and of the decimals with so few digits the one nearest to it.
-/

namespace ProtocolHeaders.Decimal

/-- A decimal number: a digit sequence read as a whole number, times a power of ten. -/
structure Digits where
  digits : Nat
  exponent : Int
deriving Repr, DecidableEq, Inhabited

/-- The reals that round to a number: from `low / scale` to `high / scale`, with
both ends when `closed`. -/
structure RoundingInterval where
  low : Nat
  middle : Nat
  high : Nat
  scale : Nat
  closed : Bool

/-- The interval around a positive number. Below a power of two the neighbour is
half as far away as above it. -/
def roundingInterval (number : Binary) : RoundingInterval :=
  let atPower := number.mantissa = Nat.pow 2 52 ∧ Binary.leastExponent < number.exponent
  let low := 4 * number.mantissa - (if atPower then 1 else 2)
  let exponent := number.exponent - 2
  let (factor, scale) : Nat × Nat :=
    if 0 <= exponent then (Nat.pow 2 exponent.toNat, 1) else (1, Nat.pow 2 (-exponent).toNat)
  { low := low * factor, middle := 4 * number.mantissa * factor,
    high := (4 * number.mantissa + 2) * factor, scale, closed := number.mantissa % 2 == 0 }

/-- Whether the ratio of two numbers lies in an interval. -/
def RoundingInterval.contains (interval : RoundingInterval) (numerator denominator : Nat) : Bool :=
  let value := numerator * interval.scale
  let low := interval.low * denominator
  let high := interval.high * denominator
  if interval.closed then low <= value && value <= high else low < value && value < high

/-- The decimal exponent of the leading digit of a positive ratio. -/
def leadingExponent (numerator denominator : Nat) : Int :=
  if denominator <= numerator then ((Nat.toDigits 10 (numerator / denominator)).length : Int) - 1
  else
    match (List.range 400).find? fun zeros => denominator <= numerator * Nat.pow 10 zeros with
    | some zeros => -(zeros : Int)
    | none => 0

/-- The decimal of a given spacing in an interval that is nearest to its middle, if
one of the two around the middle is in it. -/
def nearestOnGrid? (interval : RoundingInterval) (exponent : Int) : Option Digits :=
  let (up, down) : Nat × Nat :=
    if 0 <= exponent then (Nat.pow 10 exponent.toNat, 1) else (1, Nat.pow 10 (-exponent).toNat)
  let below := interval.middle * down / (interval.scale * up)
  let above := below + 1
  let belowFits := below != 0 && interval.contains (below * up) down
  let aboveFits := interval.contains (above * up) down
  let middle := interval.middle * down
  let toBelow := middle - below * up * interval.scale
  let toAbove := above * up * interval.scale - middle
  if belowFits && aboveFits then
    if toBelow < toAbove || (toBelow = toAbove && below % 2 = 0) then some ⟨below, exponent⟩
    else some ⟨above, exponent⟩
  else if belowFits then some ⟨below, exponent⟩
  else if aboveFits then some ⟨above, exponent⟩
  else none

/-- The shortest decimal of a positive number. Seventeen digits always suffice. -/
def shortest (number : Binary) : Digits :=
  let interval := roundingInterval number
  let leading := leadingExponent interval.middle interval.scale
  match (List.range 17).findSome? fun (more : Nat) => nearestOnGrid? interval (leading - more) with
  | some decimal => decimal
  | none => ⟨0, 0⟩

/-- A digit sequence without trailing zeros, which move into the exponent. -/
def trimZeros (digits : List Char) (exponent : Int) : List Char × Int :=
  let kept := (digits.reverse.dropWhile (· == '0')).reverse
  (kept, exponent + (digits.length - kept.length : Nat))

/-- The text of a positive decimal. It is positional where the point is at most
sixteen places after the first digit and at most four zeros come before it, and
otherwise has one digit before the point and an exponent with its sign. A positional
text always has a point. -/
def Digits.text (decimal : Digits) : List Char :=
  let (digits, exponent) := trimZeros (Nat.toDigits 10 decimal.digits) decimal.exponent
  let point := (digits.length : Int) + exponent
  if 0 <= exponent ∧ point <= 16 then
    digits ++ List.replicate exponent.toNat '0' ++ ['.', '0']
  else if 0 < point ∧ point <= 16 then
    digits.take point.toNat ++ ['.'] ++ digits.drop point.toNat
  else if -5 < point ∧ point <= 0 then
    ['0', '.'] ++ List.replicate (-point).toNat '0' ++ digits
  else
    let fraction := if digits.length = 1 then [] else '.' :: digits.drop 1
    let sign := if 0 < point then ['+'] else []
    digits.take 1 ++ fraction ++ ['e'] ++ sign ++ (toString (point - 1)).toList

/-- The text of a positive decimal without an exponent. Only a number that is not whole
has a point. -/
def Digits.positionalText (decimal : Digits) : List Char :=
  let (digits, exponent) := trimZeros (Nat.toDigits 10 decimal.digits) decimal.exponent
  let point := (digits.length : Int) + exponent
  if 0 <= exponent then digits ++ List.replicate exponent.toNat '0'
  else if 0 < point then digits.take point.toNat ++ ['.'] ++ digits.drop point.toNat
  else ['0', '.'] ++ List.replicate (-point).toNat '0' ++ digits

/-- The text of a number without its sign and without an exponent. -/
def positionalText (number : Binary) : String :=
  if number.mantissa = 0 then "0" else String.ofList (shortest number).positionalText

/-- The text of a number with a sign. -/
def floatText (negative : Bool) (number : Binary) : String :=
  let magnitude :=
    if number.mantissa = 0 then ['0', '.', '0'] else (shortest number).text
  String.ofList (if negative then '-' :: magnitude else magnitude)

end ProtocolHeaders.Decimal
