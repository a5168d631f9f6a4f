import ProtocolHeaders.File.Access
import ProtocolHeaders.File.Path

/-!
# File systems

A file system as a value: files and directories at their locations below the root, and
the directory in which relative paths start. Walking a path takes one name at a time,
and every name but the last must lead to a directory.
-/

namespace ProtocolHeaders.File

/-- What a file holds. -/
inductive Content where
  | text (value : String)
  /-- Bytes that are not the UTF-8 form of a text. -/
  | binary (bytes : List UInt8)
deriving Repr, DecidableEq

/-- The content that bytes make up. -/
def Content.ofBytes (bytes : List UInt8) : Content :=
  match String.fromUTF8? ⟨bytes.toArray⟩ with
  | some value => .text value
  | none => .binary bytes

/-- What stands at a location. -/
inductive Entry where
  | file (content : Content)
  | directory
deriving Repr, DecidableEq

/-- The names on the way down from the root. -/
abbrev Location := List String

end ProtocolHeaders.File

namespace ProtocolHeaders

open File (Fault Content Entry Location)

/-- Files and directories, and where relative paths start. -/
structure FileSystem where
  entries : List (Location × Entry) := []
  workingDirectory : Location := []
deriving Repr, DecidableEq, Inhabited

namespace FileSystem

/-- What stands at a location. The root is always a directory. -/
def entry? (files : FileSystem) (location : Location) : Option Entry :=
  if location.isEmpty then some .directory else files.entries.lookup location

/-- Entries with the one at a location replaced, or added if it is new. -/
def setEntry (location : Location) (entry : Entry) :
    List (Location × Entry) -> List (Location × Entry)
  | [] => [(location, entry)]
  | first :: others =>
      if first.1 = location then (location, entry) :: others
      else first :: setEntry location entry others

/-- The file system with an entry put at a location. -/
def put (files : FileSystem) (location : Location) (entry : Entry) : FileSystem :=
  { files with entries := setEntry location entry files.entries }

/-- The greatest number of bytes of a name. -/
def nameLimit : Nat := 255

/-- The greatest number of bytes of a path. -/
def pathLimit : Nat := 4095

/-- The location reached from another by following names. -/
def walk (files : FileSystem) (location : Location) : List String -> Except Fault Location
  | [] => .ok location
  | name :: names =>
      match files.entry? location with
      | some .directory =>
          if name = "" || name = "." then files.walk location names
          else if name = ".." then files.walk location.dropLast names
          else if nameLimit < name.utf8ByteSize then .error .nameTooLong
          else
            match files.entry? (location ++ [name]) with
            | some _ => files.walk (location ++ [name]) names
            | none => .error .notFound
      | _ => .error .notDirectory

/-- Whether a text can be a path at all. -/
def checkPath (path : String) : Except Fault Unit :=
  if path.toList.contains '\x00' then .error .nullInPath
  else if pathLimit < path.utf8ByteSize then .error .nameTooLong
  else if path.isEmpty then .error .notFound
  else .ok ()

/-- Where a path starts. -/
def origin (files : FileSystem) (path : String) : Location :=
  if Path.isAbsolute path then [] else files.workingDirectory

/-- The location that a path leads to. -/
def resolve (files : FileSystem) (path : String) : Except Fault Location := do
  checkPath path
  files.walk (files.origin path) (Path.segments path)

/-- What stands at the end of a path. -/
def atPath? (files : FileSystem) (path : String) : Option Entry :=
  match files.resolve path with
  | .ok location => files.entry? location
  | .error _ => none

/-- Whether a path leads to a file. -/
def isFile (files : FileSystem) (path : String) : Bool :=
  match files.atPath? path with
  | some (.file _) => true
  | _ => false

/-- Whether a path leads to a directory. -/
def isDirectory (files : FileSystem) (path : String) : Bool :=
  files.atPath? path == some .directory

/-- The text of the file that a path leads to. -/
def read (files : FileSystem) (path : String) : Except Fault String := do
  match files.entry? (<- files.resolve path) with
  | some (.file (.text value)) => .ok value
  | some (.file (.binary _)) => .error .notText
  | some .directory => .error .isDirectory
  | none => .error .notFound

/-- Where a path would put something new. -/
inductive Place where
  /-- Under a name in an existing directory; `trailing` says that slashes follow it. -/
  | named (directory : Location) (name : String) (trailing : Bool)
  /-- The path ends without a name, at a directory that exists. -/
  | unnamed

/-- The place at the end of a path, whose way there must exist. -/
def place (files : FileSystem) (path : String) : Except Fault Place := do
  checkPath path
  let names := ((Path.segments path).reverse.dropWhile (· == "")).reverse
  match names.getLast? with
  | none => return .unnamed
  | some name => do
      let directory <- files.walk (files.origin path) names.dropLast
      if files.entry? directory != some .directory then .error .notDirectory
      if name = "." || name = ".." then return .unnamed
      return .named directory name (names.length < (Path.segments path).length)

/-- The file system after writing content to the file at a path. -/
def writeContent (files : FileSystem) (path : String) (content : Content) :
    Except Fault FileSystem := do
  match <- files.place path with
  | .unnamed => .error .isDirectory
  | .named directory name trailing => do
      if trailing then .error .isDirectory
      if nameLimit < name.utf8ByteSize then .error .nameTooLong
      if files.entry? (directory ++ [name]) == some .directory then .error .isDirectory
      return files.put (directory ++ [name]) (.file content)

/-- The file system with one new directory. -/
def makeDirectory (files : FileSystem) (path : String) : Except Fault FileSystem := do
  match <- files.place path with
  | .unnamed => .error .alreadyExists
  | .named directory name _ => do
      if nameLimit < name.utf8ByteSize then .error .nameTooLong
      if (files.entry? (directory ++ [name])).isSome then .error .alreadyExists
      return files.put (directory ++ [name]) .directory

/-- A path and those of the directories on the way to it, longest first, without the
root and the start of a relative path. -/
def wayUp (path : String) : List String :=
  let names := Path.components path
  let root := if Path.isAbsolute path then "/" else ""
  match (List.range names.length).map fun dropped =>
      root ++ String.intercalate "/" (names.take (names.length - dropped)) with
  | [] => []
  | _ :: shorter => path :: shorter

/-- Whether making a directory failed only because it exists. -/
def alreadyMade (files : FileSystem) (path : String) (fault : Fault) : Bool :=
  fault == .alreadyExists && files.isDirectory path

/-- Make the first directory on a way up that can be made, unless one exists. Gives
the directories passed over, longest first. -/
def makeHighest (files : FileSystem) : (way : List String) ->
    Except Fault (List String) × FileSystem
  | [] => (.ok [], files)
  | path :: shorter =>
      match files.makeDirectory path with
      | .ok made => (.ok [], made)
      | .error .notFound =>
          let (passed, made) := files.makeHighest shorter
          (passed.map (path :: ·), made)
      | .error fault =>
          if files.alreadyMade path fault then (.ok [], files) else (.error fault, files)

/-- Make directories in order, shortest path first. -/
def makeAll (files : FileSystem) : (paths : List String) -> Except Fault Unit × FileSystem
  | [] => (.ok (), files)
  | path :: longer =>
      match files.makeDirectory path with
      | .ok made => made.makeAll longer
      | .error fault =>
          if files.alreadyMade path fault then files.makeAll longer else (.error fault, files)

/-- Make a directory and those on the way to it, unless they exist. Directories made
before a fault stay. -/
def createDirectories (files : FileSystem) (path : String) : Except Fault Unit × FileSystem :=
  match files.makeHighest (wayUp path) with
  | (.error fault, made) => (.error fault, made)
  | (.ok passed, made) => made.makeAll passed.reverse

/-- The file system without what stands at a path and below it. -/
def remove (files : FileSystem) (path : String) : Except Fault FileSystem := do
  let location <- files.resolve path
  return { files with entries := files.entries.filter fun entry => !location.isPrefixOf entry.1 }

/-- The files below a directory, with their locations seen from there. -/
def filesBelow (files : FileSystem) (directory : Location) : List (Location × Content) :=
  files.entries.filterMap fun (location, entry) =>
    match entry with
    | .file content =>
        if directory.isPrefixOf location then some (location.drop directory.length, content)
        else none
    | .directory => none

/-- Access to the files of a file system. -/
def access : File.Access (StateM FileSystem) where
  read path := do return (<- get).read path
  isFile path := do return (<- get).isFile path
  createDirectories path := modifyGet fun files => files.createDirectories path
  write path text := modifyGet fun files =>
    match files.writeContent path (.text text) with
    | .ok written => (.ok (), written)
    | .error fault => (.error fault, files)

end FileSystem

end ProtocolHeaders
