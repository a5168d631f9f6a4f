import ProtocolHeaders.Decimal.Figures
import ProtocolHeaders.Json.Error
import ProtocolHeaders.Text.HexDigit

/-!
# Words, strings and numbers

The smallest parts of a text. A scanner takes the text from where its part begins
and gives back what it read with the rest of the text. Strings are scanned from
behind their opening quote.
-/

namespace ProtocolHeaders.Json

/-- The four characters that may stand between the parts of a text. -/
def isSpace (c : Char) : Bool :=
  c == ' ' || c == '\n' || c == '\t' || c == '\r'

/-- The text from its first part on. -/
def skipSpace (text : List Char) : List Char :=
  text.dropWhile isSpace

/-- The letters that are left of a word. -/
def scanWord : (expected text : List Char) -> Except Error (List Char)
  | [], text => .ok text
  | _ :: _, [] => .error (.truncated .value)
  | letter :: letters, c :: text =>
      if c = letter then scanWord letters text else .error (.malformed .expectedWord)

/-- The number of bytes of a text, counted up to four. -/
def bytesUpToFour (text : List Char) : Nat :=
  (text.take 4).foldl (fun bytes c => bytes + c.utf8Size) 0

/-- The four hexadecimal digits of an escape. -/
def scanHex (text : List Char) : Except Error (Nat × List Char) :=
  match text with
  | a :: b :: c :: d :: rest =>
      match Text.hexValue? a, Text.hexValue? b, Text.hexValue? c, Text.hexValue? d with
      | some a, some b, some c, some d => .ok (((a * 16 + b) * 16 + c) * 16 + d, rest)
      | _, _, _, _ => .error (.malformed .invalidEscape)
  | _ =>
      if bytesUpToFour text < 4 then .error (.truncated .string)
      else .error (.malformed .invalidEscape)

/-- The first halves of surrogate pairs. -/
def isHighSurrogate (code : Nat) : Bool := 0xD800 <= code && code <= 0xDBFF

/-- The second halves of surrogate pairs. -/
def isLowSurrogate (code : Nat) : Bool := 0xDC00 <= code && code <= 0xDFFF

/-- The code point of a surrogate pair. -/
def joinSurrogates (high low : Nat) : Nat :=
  (high - 0xD800) * 0x400 + (low - 0xDC00) + 0x10000

/-- The second half of a surrogate pair, which has to follow the first at once. -/
def scanLowHalf : List Char -> Except Error (Nat × List Char)
  | [] => .error (.truncated .string)
  | backslash :: rest =>
      if backslash = '\\' then
        match rest with
        | [] => .error (.truncated .string)
        | letter :: rest =>
            if letter = 'u' then scanHex rest
            else .error (.malformed .unfinishedSurrogatePair)
      else .error (.malformed .unfinishedSurrogatePair)

/-- A character given by its code, or by the two halves of a surrogate pair. -/
def scanCode (text : List Char) : Except Error (Char × List Char) :=
  match scanHex text with
  | .error fault => .error fault
  | .ok (code, rest) =>
      if isLowSurrogate code then .error (.malformed .loneSurrogate)
      else if isHighSurrogate code then
        match scanLowHalf rest with
        | .error fault => .error fault
        | .ok (low, rest) =>
            if isLowSurrogate low then .ok (Char.ofNat (joinSurrogates code low), rest)
            else .error (.malformed .loneSurrogate)
      else .ok (Char.ofNat code, rest)

/-- The characters that have an escape of one letter. -/
def letterEscape? : Char -> Option Char
  | '"' => some '"'
  | '\\' => some '\\'
  | '/' => some '/'
  | 'b' => some '\x08'
  | 'f' => some '\x0c'
  | 'n' => some '\n'
  | 'r' => some '\r'
  | 't' => some '\t'
  | _ => none

/-- The character of an escape, from behind its backslash. -/
def scanEscape (text : List Char) : Except Error (Char × List Char) :=
  match text with
  | [] => .error (.truncated .string)
  | 'u' :: rest => scanCode rest
  | letter :: rest =>
      match letterEscape? letter with
      | some c => .ok (c, rest)
      | none => .error (.malformed .invalidEscape)

/-- Scanning four digits leaves no more text. -/
theorem scanHex_length {text rest : List Char} {code : Nat}
    (scanned : scanHex text = .ok (code, rest)) : rest.length ≤ text.length := by
  unfold scanHex at scanned
  split at scanned
  · split at scanned
    · cases scanned
      simp
      omega
    · cases scanned
  · split at scanned <;> cases scanned

/-- Scanning the second half of a pair leaves no more text. -/
theorem scanLowHalf_length {text rest : List Char} {code : Nat}
    (scanned : scanLowHalf text = .ok (code, rest)) : rest.length ≤ text.length := by
  unfold scanLowHalf at scanned
  split at scanned
  · cases scanned
  · split at scanned
    · split at scanned
      · cases scanned
      · split at scanned
        · have := scanHex_length scanned
          simp
          omega
        · cases scanned
    · cases scanned

/-- Scanning a code leaves no more text. -/
theorem scanCode_length {text rest : List Char} {c : Char}
    (scanned : scanCode text = .ok (c, rest)) : rest.length ≤ text.length := by
  unfold scanCode at scanned
  split at scanned
  · cases scanned
  · rename_i code afterCode first
    have := scanHex_length first
    split at scanned
    · cases scanned
    · split at scanned
      · split at scanned
        · cases scanned
        · rename_i low afterLow second
          have := scanLowHalf_length second
          split at scanned
          · simp only [Except.ok.injEq, Prod.mk.injEq] at scanned
            obtain ⟨-, rfl⟩ := scanned
            omega
          · cases scanned
      · simp only [Except.ok.injEq, Prod.mk.injEq] at scanned
        obtain ⟨-, rfl⟩ := scanned
        omega

/-- Scanning an escape leaves no more text. -/
theorem scanEscape_length {text rest : List Char} {c : Char}
    (scanned : scanEscape text = .ok (c, rest)) : rest.length ≤ text.length := by
  unfold scanEscape at scanned
  split at scanned
  · cases scanned
  · have := scanCode_length scanned
    simp
    omega
  · split at scanned
    · cases scanned
      simp
    · cases scanned

/-- A string up to and with its closing quote. -/
def scanString (text : List Char) : Except Error (List Char × List Char) :=
  match text with
  | [] => .error (.truncated .string)
  | c :: rest =>
      if c = '"' then .ok ([], rest)
      else if c = '\\' then
        match escape : scanEscape rest with
        | .error fault => .error fault
        | .ok (escaped, afterEscape) =>
            have : afterEscape.length ≤ rest.length := scanEscape_length escape
            do
              let (others, rest) <- scanString afterEscape
              return (escaped :: others, rest)
      else if c.toNat < 0x20 then .error (.malformed .bareControl)
      else do
        let (others, rest) <- scanString rest
        return (c :: others, rest)
termination_by text.length

/-- A string whose value does not matter, up to and with its closing quote. Escaped
codes need not be characters. -/
def skipString : List Char -> Except Error (List Char)
  | [] => .error (.truncated .string)
  | '"' :: rest => .ok rest
  | '\\' :: [] => .error (.truncated .string)
  | '\\' :: letter :: rest =>
      if letter = 'u' then
        match scanHex rest with
        | .error fault => .error fault
        | .ok _ => skipString rest
      else
        match letterEscape? letter with
        | some _ => skipString rest
        | none => .error (.malformed .invalidEscape)
  | c :: rest => if c.toNat < 0x20 then .error (.malformed .bareControl) else skipString rest

/-- A number as it is written: its sign, the digits before the point, the digits
behind it, and the power of ten at its end. -/
structure NumberText where
  negative : Bool
  whole : List Char
  fraction? : Option (List Char)
  exponent? : Option Int
deriving Repr, DecidableEq

/-- The longest sequence of digits at the front of a text, and the rest. -/
def spanDigits (text : List Char) : List Char × List Char :=
  (text.takeWhile Char.isDigit, text.dropWhile Char.isDigit)

/-- The fault of a number that lacks a digit. When the value matters, the end of
the text counts as a cut. -/
def lacksDigit (strict : Bool) (text : List Char) : Error :=
  if strict && text.isEmpty then .truncated .value else .malformed .invalidNumber

/-- The digits before the point. A zero stands alone. -/
def scanWhole (strict : Bool) (text : List Char) : Except Error (List Char × List Char) :=
  match spanDigits text with
  | ([], rest) => .error (lacksDigit strict rest)
  | ('0' :: _ :: _, _) => .error (.malformed .invalidNumber)
  | (digits, rest) => .ok (digits, rest)

/-- The digits behind the point, if there is one. -/
def scanFraction (strict : Bool) (text : List Char) :
    Except Error (Option (List Char) × List Char) :=
  match text with
  | '.' :: rest =>
      match spanDigits rest with
      | ([], rest) => .error (lacksDigit strict rest)
      | (digits, rest) => .ok (some digits, rest)
  | _ => .ok (none, text)

/-- The exponent, if there is one. -/
def scanExponent (strict : Bool) (text : List Char) : Except Error (Option Int × List Char) :=
  match text with
  | letter :: rest =>
      if letter = 'e' || letter = 'E' then
        let (negative, rest) := Decimal.splitSign rest
        match spanDigits rest with
        | ([], rest) => .error (lacksDigit strict rest)
        | (digits, rest) =>
            let value : Int := Decimal.valueOf digits
            .ok (some (if negative then -value else value), rest)
      else .ok (none, text)
  | [] => .ok (none, text)

/-- A number, from behind its sign. -/
def scanNumber (strict negative : Bool) (text : List Char) :
    Except Error (NumberText × List Char) := do
  let (whole, rest) <- scanWhole strict text
  let (fraction?, rest) <- scanFraction strict rest
  let (exponent?, rest) <- scanExponent strict rest
  return ({ negative, whole, fraction?, exponent? }, rest)

end ProtocolHeaders.Json
