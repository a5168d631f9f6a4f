/-!
# Dates and times

A moment is a date, a time of day, or a date with a time and perhaps an offset. It is
kept in one canonical text.
-/

namespace ProtocolHeaders.Toml.Moment

/-- A number of exactly `count` digits. -/
def digits : (count : Nat) -> (value : Nat) -> List Char -> Option (Nat × List Char)
  | 0, value, text => some (value, text)
  | _ + 1, _, [] => none
  | count + 1, value, c :: text =>
      if c.isDigit then digits count (10 * value + (c.toNat - '0'.toNat)) text else none

/-- A number of two digits within bounds. -/
def twoDigits (least greatest : Nat) (text : List Char) : Option (Nat × List Char) := do
  let (value, rest) <- digits 2 0 text
  if least <= value && value <= greatest then some (value, rest) else none

/-- A number written with at least `width` digits. -/
def padded (width value : Nat) : String :=
  let written := Nat.toDigits 10 value
  String.ofList (List.replicate (width - written.length) '0' ++ written)

/-- Years with a twenty-ninth of February. -/
def isLeapYear (year : Nat) : Bool :=
  year % 4 == 0 && (year % 100 != 0 || year % 400 == 0)

/-- The number of days of a month. -/
def daysIn (year month : Nat) : Nat :=
  if month = 2 then if isLeapYear year then 29 else 28
  else if month = 4 || month = 6 || month = 9 || month = 11 then 30
  else 31

/-- A date, in its canonical text. -/
def date (text : List Char) : Option (String × List Char) := do
  let (year, '-' :: rest) <- digits 4 0 text | none
  let (month, '-' :: rest) <- twoDigits 1 12 rest | none
  let (day, rest) <- twoDigits 1 (daysIn year month) rest
  return (padded 4 year ++ "-" ++ padded 2 month ++ "-" ++ padded 2 day, rest)

/-- The digits of a fraction of a second as far as they count, without final zeros. -/
def fractionText (written : List Char) : String :=
  let significant := ((written.take 9).reverse.dropWhile (· == '0')).reverse
  if significant.isEmpty then "" else "." ++ String.ofList significant

/-- The seconds of a time with their fraction; seconds that are not written are zero. -/
def seconds (text : List Char) : Option (String × List Char) :=
  match text with
  | ':' :: rest => do
      let (second, rest) <- twoDigits 0 60 rest
      match rest with
      | '.' :: rest =>
          let fraction := rest.takeWhile Char.isDigit
          if fraction.isEmpty then none
          else
            some (":" ++ padded 2 second ++ fractionText fraction, rest.dropWhile Char.isDigit)
      | rest => some (":" ++ padded 2 second, rest)
  | rest => some (":00", rest)

/-- A time of day, in its canonical text. -/
def time (text : List Char) : Option (String × List Char) := do
  let (hour, ':' :: rest) <- twoDigits 0 23 text | none
  let (minute, rest) <- twoDigits 0 59 rest
  let (second, rest) <- seconds rest
  return (padded 2 hour ++ ":" ++ padded 2 minute ++ second, rest)

/-- An offset to the end of the text, in its canonical text; it may be missing. -/
def offset (text : List Char) : Option String :=
  match text with
  | [] => some ""
  | ['Z'] => some "Z"
  | ['z'] => some "Z"
  | sign :: rest => do
      if sign != '+' && sign != '-' then none
      let (hour, ':' :: rest) <- twoDigits 0 23 rest | none
      let (minute, []) <- twoDigits 0 59 rest | none
      let sign := if hour = 0 && minute = 0 then "+" else String.singleton sign
      return sign ++ padded 2 hour ++ ":" ++ padded 2 minute

/-- The moment that a whole text stands for, in its canonical text. -/
def read? (text : List Char) : Option String :=
  match date text with
  | some (day, []) => some day
  | some (day, separator :: rest) => do
      if separator != 'T' && separator != 't' && separator != ' ' then none
      let (clock, rest) <- time rest
      return day ++ "T" ++ clock ++ (<- offset rest)
  | none => do
      let (clock, []) <- time text | none
      return clock

/-- Whether a whole text is a date without a time. -/
def isDate (text : List Char) : Bool :=
  match date text with
  | some (_, []) => true
  | _ => false

end ProtocolHeaders.Toml.Moment
