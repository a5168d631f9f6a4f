/-!
# Binary floating-point numbers of 64 bits

The finite nonnegative numbers of the format, as a mantissa of at most 53 bits
times a power of two. Every operation computes the exact result as a ratio and
rounds it once: to the nearest number of the format, and of two equally near ones
to the one with the even mantissa.
-/

namespace ProtocolHeaders.Decimal

/-- The number `mantissa * 2 ^ exponent`. -/
structure Binary where
  mantissa : Nat
  exponent : Int
deriving Repr, DecidableEq, Inhabited

namespace Binary

/-- The number zero. -/
def zero : Binary := ⟨0, 0⟩

/-- The exponent of the numbers with the finest spacing. -/
def leastExponent : Int := -1074

/-- The exponent of the numbers with the coarsest spacing. -/
def greatestExponent : Int := 971

/-- A ratio divided by a power of two. -/
def scaleRatio (numerator denominator : Nat) (exponent : Int) : Nat × Nat :=
  if 0 <= exponent then (numerator, denominator * Nat.pow 2 exponent.toNat)
  else (numerator * Nat.pow 2 (-exponent).toNat, denominator)

/-- The whole number nearest to a ratio, the even one of two equally near. -/
def nearest (numerator denominator : Nat) : Nat :=
  let quotient := numerator / denominator
  let twice := 2 * (numerator % denominator)
  if twice < denominator then quotient
  else if denominator < twice then quotient + 1
  else quotient + quotient % 2

/-- The exponent at which a positive ratio has a mantissa of 53 bits, as far as the
format has one so small. -/
def exponentOf (numerator denominator : Nat) : Int :=
  let estimate : Int := (numerator.log2 : Int) - (denominator.log2 : Int) - 52
  let scaled := scaleRatio numerator denominator estimate
  let exponent := if scaled.1 / scaled.2 < Nat.pow 2 52 then estimate - 1 else estimate
  max exponent leastExponent

/-- The number nearest to a ratio, unless the ratio is beyond the largest. -/
def ofRatio? (numerator denominator : Nat) : Option Binary :=
  if numerator = 0 then some zero
  else
    let exponent := exponentOf numerator denominator
    let scaled := scaleRatio numerator denominator exponent
    let mantissa := nearest scaled.1 scaled.2
    let rounded : Binary :=
      if mantissa = Nat.pow 2 53 then ⟨Nat.pow 2 52, exponent + 1⟩ else ⟨mantissa, exponent⟩
    if greatestExponent < rounded.exponent then none
    else if rounded.mantissa = 0 then some zero
    else some rounded

/-- The number nearest to a significand times a power of ten, unless that is beyond the
largest number. Powers that settle the matter by themselves are not computed. -/
def ofScientific? (significand : Nat) (exponent : Int) : Option Binary :=
  let magnitude : Int := (Nat.toDigits 10 significand).length + exponent
  if significand = 0 || magnitude < -400 then some zero
  else if 400 < magnitude then none
  else if 0 <= exponent then ofRatio? (significand * Nat.pow 10 exponent.toNat) 1
  else ofRatio? significand (Nat.pow 10 (-exponent).toNat)

/-- The ratio that a number is. -/
def toRatio (number : Binary) : Nat × Nat :=
  if 0 <= number.exponent then (number.mantissa * Nat.pow 2 number.exponent.toNat, 1)
  else (number.mantissa, Nat.pow 2 (-number.exponent).toNat)

/-- Which of two numbers is larger. -/
def compare (left right : Binary) : Ordering :=
  Ord.compare (left.toRatio.1 * right.toRatio.2) (right.toRatio.1 * left.toRatio.2)

/-- The rounded product, unless it is too large. -/
def multiply? (left right : Binary) : Option Binary :=
  ofRatio? (left.toRatio.1 * right.toRatio.1) (left.toRatio.2 * right.toRatio.2)

/-- The rounded quotient by a number that is not zero. -/
def divide? (left right : Binary) : Option Binary :=
  ofRatio? (left.toRatio.1 * right.toRatio.2) (left.toRatio.2 * right.toRatio.1)

/-- The number nearest to a power of ten. -/
def powerOfTen (exponent : Nat) : Binary :=
  (ofRatio? (Nat.pow 10 exponent) 1).getD zero

/-- The largest power of ten that the format can come near to. -/
def greatestPowerOfTen : Nat := 308

/-- A number divided by a power of ten, in steps of the largest power; each step
rounds. Once the number is zero it stays so. -/
def shrink (number : Binary) (powers : Nat) : Binary :=
  if number.mantissa = 0 then zero
  else if greatestPowerOfTen < powers then
    shrink ((number.divide? (powerOfTen greatestPowerOfTen)).getD zero)
      (powers - greatestPowerOfTen)
  else (number.divide? (powerOfTen powers)).getD zero
termination_by powers
decreasing_by
  simp only [greatestPowerOfTen] at *
  omega

/-- The number for a digit sequence and a decimal exponent: both the digits and the
power of ten are rounded, then the result. There is none for a number too large. -/
def ofDecimal? (digits : Nat) (exponent : Int) : Option Binary :=
  match ofRatio? digits 1 with
  | none => none
  | some number =>
      if exponent < 0 then some (shrink number (-exponent).toNat)
      else if number.mantissa = 0 then some zero
      else if greatestPowerOfTen < exponent.toNat then none
      else number.multiply? (powerOfTen exponent.toNat)

end Binary

end ProtocolHeaders.Decimal
