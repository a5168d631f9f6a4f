import ProtocolHeaders.Text.Blank
import ProtocolHeaders.Text.DecimalDigit

/-!
# Protocol versions

A version tag is written `[v]MAJOR.MINOR[.PATCH]`, after optional blanks and
before an optional annotation that a blank sets off. Versions are compared by
their three numbers; the tag itself is kept as it was written.
-/

namespace ProtocolHeaders

/-- A version tag with the three numbers read off it. -/
structure Version where
  tag : String
  major : Nat
  minor : Nat
  patch : Nat
deriving Repr, DecidableEq, Inhabited

/-- Why a tag is no version. -/
inductive VersionError where
  /-- The tag is not of the form of a version. -/
  | malformed (tag : String)
  /-- A component is written in digits other than ASCII ones. -/
  | foreignDigit
  /-- A component does not fit into 32 bits. -/
  | tooLarge
deriving Repr, DecidableEq

namespace VersionError

/-- The text shown for an error. -/
def message : VersionError -> String
  | malformed tag => "Invalid version format: " ++ tag
  | foreignDigit => "Parse error: invalid digit found in string"
  | tooLarge => "Parse error: number too large to fit in target type"

end VersionError

namespace Version

/-- The components are numbers of 32 bits. -/
def componentBound : Nat := 0x100000000

/-- The number that a sequence of digits continues, read from left to right: the
first digit that is foreign or leads past 32 bits decides the error. -/
def readComponentFrom (value : Nat) : List Char -> Except VersionError Nat
  | [] => .ok value
  | digit :: digits =>
      match Text.digitValue? digit with
      | none => .error .foreignDigit
      | some d =>
          if 10 * value + d < componentBound then readComponentFrom (10 * value + d) digits
          else .error .tooLarge

/-- The number that a sequence of digits stands for. -/
def readComponent (digits : List Char) : Except VersionError Nat :=
  readComponentFrom 0 digits

/-- The digit sequences of a tag. -/
structure Components where
  major : List Char
  minor : List Char
  patch? : Option (List Char)
deriving Repr, DecidableEq

/-- What may follow the numbers: nothing, or a blank and then any text without a
line break. -/
def isAnnotation : List Char -> Bool
  | [] => true
  | first :: others => Text.isBlank first && others.all (· != '\n')

/-- The patch digits at the front of a text, and what follows them. -/
def splitPatch (text : List Char) : Option (List Char) × List Char :=
  match text with
  | '.' :: after =>
      let digits := after.takeWhile Text.isDecimalDigit
      if digits.isEmpty then (none, text)
      else (some digits, after.dropWhile Text.isDecimalDigit)
  | _ => (none, text)

/-- A text without the letter that may stand before a version. -/
def dropLetter : List Char -> List Char
  | 'v' :: others => others
  | text => text

/-- The components of a tag of the right form. -/
def components? (tag : List Char) : Option Components :=
  let text := dropLetter (Text.trimStart tag)
  let major := text.takeWhile Text.isDecimalDigit
  match text.dropWhile Text.isDecimalDigit with
  | '.' :: afterDot =>
      let minor := afterDot.takeWhile Text.isDecimalDigit
      let (patch?, rest) := splitPatch (afterDot.dropWhile Text.isDecimalDigit)
      if !major.isEmpty && !minor.isEmpty && isAnnotation rest then
        some { major, minor, patch? }
      else none
  | _ => none

/-- The number of a patch component. One that has no reading counts as zero, as
an absent one does. -/
def readPatch : Option (List Char) -> Nat
  | none => 0
  | some digits => (readComponent digits).toOption.getD 0

/-- Read a version tag. -/
def parse (tag : String) : Except VersionError Version :=
  match components? tag.toList with
  | none => .error (.malformed tag)
  | some components => do
      let major <- readComponent components.major
      let minor <- readComponent components.minor
      return { tag, major, minor, patch := readPatch components.patch? }

/-- Versions compare by major number, then minor, then patch. -/
def compare (left right : Version) : Ordering :=
  (Ord.compare left.major right.major).then
    ((Ord.compare left.minor right.minor).then (Ord.compare left.patch right.patch))

instance : Ord Version := ⟨compare⟩

/-- Two versions are the same when their numbers are; annotations do not count. -/
def sameNumbers (left right : Version) : Bool :=
  compare left right == .eq

/-- Versions in ascending order; versions with the same numbers keep their order. -/
def sort (versions : List Version) : List Version :=
  versions.mergeSort fun left right => compare left right != .gt

end Version

end ProtocolHeaders
