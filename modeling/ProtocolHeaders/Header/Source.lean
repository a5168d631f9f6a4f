import ProtocolHeaders.Header.Literal
import ProtocolHeaders.Header.Options
import ProtocolHeaders.Text.Blank
import ProtocolHeaders.Text.Segment

/-!
# Header files

A header starts with a banner, includes other headers and opens a namespace around
its body. Its text is tidy: no line ends in blanks, and the text ends with the line
break of its last line that is not blank.
-/

namespace ProtocolHeaders.Header

/-- Lines without trailing blanks, up to the last one that is not blank. -/
def tidyLines (lines : List (List Char)) : List (List Char) :=
  ((lines.map Text.trimEnd).reverse.dropWhile List.isEmpty).reverse

/-- A text made tidy. A text of blank lines becomes empty. -/
def tidyChars (text : List Char) : List Char :=
  let lines := tidyLines (Text.lines text)
  if lines.isEmpty then [] else Text.joinLines lines ++ ['\n']

/-- A text made tidy. -/
def tidy (text : String) : String :=
  String.ofList (tidyChars text.toList)

/-- The first lines of every header. -/
def banner : String :=
  "// File generated by lspgen\n// DO NOT MAKE ANY CHANGES HERE\n"

/-- The line that shows the digest of the model. -/
def checksumLine (options : Options) : String :=
  match options.checksum? with
  | some digest => "// Model checksum: " ++ digest ++ "\n"
  | none => ""

/-- A line that includes another header, which is given with its brackets or quotes. -/
def includeLine (header : String) : String :=
  "#include " ++ header ++ "\n"

/-- A header with given includes and a given body. -/
def source (options : Options) (includes : List String) (body : String) : String :=
  tidy (banner ++ checksumLine options ++ "\n#pragma once\n\n" ++
    String.join (includes.map includeLine) ++
    "\nnamespace " ++ options.namespaceName ++ " \x7b\n" ++ body ++ "\n\x7d\n")

/-- A header of this run, between quotes as an include has it. -/
def localInclude (file : String) : String :=
  quote file

/-- The spaces in front of a line at a nesting depth. -/
def indentation (depth : Nat) : String :=
  String.ofList (List.replicate (4 * depth) ' ')

end ProtocolHeaders.Header
