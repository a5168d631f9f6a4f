import ProtocolHeaders.Text.Segment

/-!
# Paths

A path is a text in which slashes separate names. One that begins with a slash starts
at the root, every other one where it is used. Empty names and single dots stay where
they are; two dots go back up.
-/

namespace ProtocolHeaders.Path

/-- The names of a path as they are written, the empty ones included. -/
def segments (path : String) : List String :=
  (Text.splitOn '/' path.toList).map String.ofList

/-- Whether a path starts at the root. -/
def isAbsolute (path : String) : Bool :=
  path.toList.head? == some '/'

/-- The path of a name in a directory. An absolute name stands alone. -/
def join (base name : String) : String :=
  if isAbsolute name || base.isEmpty then name
  else if base.toList.getLast? == some '/' then base ++ name
  else base ++ "/" ++ name

/-- The names of a path without those that stay where they are; only a dot at the very
front is kept. -/
def components (path : String) : List String :=
  let names := (segments path).filter fun name => name != "" && name != "."
  if (segments path).head? == some "." then "." :: names else names

/-- The path without its last component. The root and the empty path have none. -/
def parent? (path : String) : Option String :=
  if (components path).isEmpty then none
  else
    some ((if isAbsolute path then "/" else "") ++
      String.intercalate "/" (components path).dropLast)

end ProtocolHeaders.Path
