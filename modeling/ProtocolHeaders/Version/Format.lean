import ProtocolHeaders.Json.Reader
import ProtocolHeaders.Json.Writer
import ProtocolHeaders.Version

/-!
# The data format of versions

A version as data holds its tag and its three numbers side by side; nothing ties
the numbers to the tag.
-/

namespace ProtocolHeaders.Version

/-- Versions hold no other records. -/
inductive Record where
  | version
deriving Repr, DecidableEq

/-- The fields of a version. -/
def format : Json.Format Record
  | .version =>
      ⟨"struct ProtocolVersion",
        [.required "version_string" .text, .required "major" .count,
          .required "minor" .count, .required "patch" .count]⟩

/-- The data of a version. -/
def toData (version : Version) : Json.Data :=
  .record [.text version.tag, .count version.major, .count version.minor, .count version.patch]

/-- The version that data stands for. -/
def ofData (data : Json.Data) : Version :=
  { tag := (data.field 0).asText, major := (data.field 1).asCount,
    minor := (data.field 2).asCount, patch := (data.field 3).asCount }

/-- Read a version as data. -/
def read (text : String) : Except Json.Error Version := do
  return ofData (<- Json.read format (.record .version) text.toList)

/-- A version as data without spaces. -/
def write (version : Version) : String :=
  Json.writeCompact format (.record .version) version.toData

end ProtocolHeaders.Version
