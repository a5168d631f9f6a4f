import ProtocolHeaders.Decimal.Binary
import ProtocolHeaders.Decimal.Figures
import ProtocolHeaders.Text.HexDigit

/-!
# Numbers of configuration files

Digits may be grouped by underscores that stand between two of them. Whole numbers have
up to 128 bits; a number with a point or an exponent must not be too large for a
floating-point number of 64 bits. A number that is well written but has no such value is
told apart from a text that is no number.
-/

namespace ProtocolHeaders.Toml.Number

/-- What a number is read as. -/
inductive Reading where
  | integer (value : Int)
  /-- A number with a point or an exponent, or one that is not finite by its name. -/
  | decimal
  /-- A number without a value. -/
  | unreadable
deriving Repr, DecidableEq

/-! ## Digits -/

/-- The value of a digit below sixteen. -/
def digitValue (c : Char) : Nat :=
  (Text.hexValue? c).getD 0

/-- The number that digits of a base stand for. -/
def valueIn (base : Nat) (digits : List Char) : Nat :=
  digits.foldl (fun value digit => base * value + digitValue digit) 0

/-- The digits of a base. -/
def isDigitOf (base : Nat) (c : Char) : Bool :=
  match Text.hexValue? c with
  | some value => value < base
  | none => false

/-- A digit sequence of a base, as a number. -/
def natural? (base : Nat) (digits : List Char) : Option Nat :=
  if !digits.isEmpty && digits.all (isDigitOf base) then some (valueIn base digits) else none

/-- Whether each underscore stands between two digits. The argument before the text tells
whether a digit stands in front of it. -/
def isGrouped (isDigit : Char -> Bool) : (behindDigit : Bool) -> List Char -> Bool
  | _, [] => true
  | _, ['_'] => false
  | behindDigit, '_' :: next :: rest =>
      behindDigit && isDigit next && isGrouped isDigit true rest
  | _, c :: rest => isGrouped isDigit (isDigit c) rest

/-- A text without the underscores that group its digits. -/
def ungroup (text : List Char) : List Char :=
  text.filter (· != '_')

/-- Whether a text begins with a zero that is not all of it. -/
def hasLeadingZero : List Char -> Bool
  | '0' :: _ :: _ => true
  | _ => false

/-! ## Whole numbers -/

/-- The whole numbers that fit into 128 bits, with a sign or without. -/
def inRange (value : Int) : Bool :=
  -(Nat.pow 2 127 : Int) <= value && value < (Nat.pow 2 128 : Int)

/-- A whole number, if it has a value and that is not too large. -/
def whole (value? : Option Int) : Reading :=
  match value?.filter inRange with
  | some value => .integer value
  | none => .unreadable

/-- A whole number from behind the mark of its base. -/
def based? (base : Nat) (digits : List Char) : Option Reading :=
  let isPart (c : Char) := isDigitOf base c || c == '_'
  if digits.all isPart && isGrouped (isDigitOf 16) false digits then
    some (whole ((natural? base (ungroup digits)).map Int.ofNat))
  else none

/-! ## Numbers with a point or an exponent -/

/-- A text, cut at its first character that is neither a digit nor an underscore. -/
def spanDigits (text : List Char) : List Char × List Char :=
  text.span fun c => c.isDigit || c == '_'

/-- An exponent: nothing, or a letter and a whole number that may begin with zeros. -/
def exponent? : List Char -> Option Int
  | [] => some 0
  | letter :: rest => if letter = 'e' || letter = 'E' then Decimal.integer? (ungroup rest) else none

/-- The digits before and behind the point, and the exponent. The digits before the
point do not begin with a zero unless they are nothing else. -/
def decimalParts? (unsigned : List Char) : Option (List Char × List Char × Int) :=
  let (beforePoint, rest) := spanDigits unsigned
  let digits := ungroup beforePoint
  if digits.isEmpty || (beforePoint.head? = some '0' && 1 < digits.length) then none
  else
    match rest with
    | '.' :: rest =>
        let (behindPoint, rest) := spanDigits rest
        let fraction := ungroup behindPoint
        if fraction.isEmpty then none
        else (exponent? rest).map fun exponent => (digits, fraction, exponent)
    | rest => (exponent? rest).map fun exponent => (digits, [], exponent)

/-- Whether a character tells a number from a whole one. -/
def isDecimalMark (c : Char) : Bool :=
  c == '.' || c == 'e' || c == 'E'

/-! ## Reading -/

/-- A number in base ten, given with its sign and without. A whole number with groups may
hold other characters than digits in them, but then it has no value. -/
def decimal? (written unsigned : List Char) : Option Reading :=
  match unsigned.dropWhile Char.isDigit with
  | [] =>
      if unsigned.isEmpty || hasLeadingZero unsigned then none
      else some (whole (Decimal.integer? written))
  | mark :: rest =>
      if (mark :: rest).any isDecimalMark then
        match decimalParts? unsigned with
        | some (digits, fraction, exponent) =>
            if !isGrouped Char.isDigit false written then none
            else
              match Decimal.Binary.ofScientific? (Decimal.valueOf (digits ++ fraction))
                  (exponent - fraction.length) with
              | some _ => some .decimal
              | none => some .unreadable
        | none => none
      else if mark = '_' && !hasLeadingZero unsigned && isGrouped (isDigitOf 16) false written then
        some (whole (Decimal.integer? (ungroup written)))
      else none

/-- Read a number. -/
def read? (text : List Char) : Option Reading :=
  let unsigned := (Decimal.splitSign text).2
  if unsigned = ['i', 'n', 'f'] || unsigned = ['n', 'a', 'n'] then some .decimal
  else
    match text with
    | '0' :: 'x' :: digits => based? 16 digits
    | '0' :: 'o' :: digits => based? 8 digits
    | '0' :: 'b' :: digits => based? 2 digits
    | _ => decimal? text unsigned

end ProtocolHeaders.Toml.Number
