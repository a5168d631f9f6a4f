import ProtocolHeaders.File.Fault

/-!
# Access to files

Everything that a run asks of the files around it. A run is written over any such
access, so it can go through real files as well as through a `FileSystem` value.
-/

namespace ProtocolHeaders.File

/-- Access to files, with effects of some kind. -/
structure Access (m : Type -> Type) where
  /-- The text of a file. -/
  read : (path : String) -> m (Except Fault String)
  /-- Whether a path leads to a file. -/
  isFile : (path : String) -> m Bool
  /-- Create a directory and those on the way to it, unless they exist. -/
  createDirectories : (path : String) -> m (Except Fault Unit)
  /-- Write a file; its directory must exist, and what it held before is lost. -/
  write : (path text : String) -> m (Except Fault Unit)

end ProtocolHeaders.File
