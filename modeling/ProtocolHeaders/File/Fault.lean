/-!
# Faults of file access

Why a file cannot be read, written or created.
-/

namespace ProtocolHeaders.File

/-- Why access to a file fails. -/
inductive Fault where
  | notFound
  | alreadyExists
  /-- A file stands where a path needs a directory. -/
  | notDirectory
  | isDirectory
  | nameTooLong
  /-- A path holds the null character. -/
  | nullInPath
  /-- The bytes of a file are not the UTF-8 form of a text. -/
  | notText
  /-- Any other fault, with the text shown for it. -/
  | other (message : String)
deriving Repr, DecidableEq

/-- The text shown for a fault. -/
def Fault.message : Fault -> String
  | notFound => "No such file or directory (os error 2)"
  | alreadyExists => "File exists (os error 17)"
  | notDirectory => "Not a directory (os error 20)"
  | isDirectory => "Is a directory (os error 21)"
  | nameTooLong => "File name too long (os error 36)"
  | nullInPath => "file name contained an unexpected NUL byte"
  | notText => "stream did not contain valid UTF-8"
  | other message => message

end ProtocolHeaders.File
