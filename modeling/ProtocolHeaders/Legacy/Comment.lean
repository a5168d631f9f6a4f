import ProtocolHeaders.Text.Blank
import ProtocolHeaders.Text.Segment

/-!
# Comment blocks as documentation

Legacy models document their entities with ready-made comment blocks. Reading such a
block drops the comment markers of every line and the empty lines at both ends.
-/

namespace ProtocolHeaders.Legacy.Comment

/-- A text without a marker that may stand at its front. -/
def dropMarker (marker text : List Char) : List Char :=
  if marker.isPrefixOf text then text.drop marker.length else text

/-- A text without a marker that may stand at its end. -/
def dropFinalMarker (marker text : List Char) : List Char :=
  if marker.isSuffixOf text then text.take (text.length - marker.length) else text

/-- A line of a comment without its markers: in this order one opener, one closer,
one line comment marker and one star, each only where it is. -/
def stripLine (line : List Char) : List Char :=
  let line := Text.trim line
  let line := dropMarker ['/', '*', '*'] line
  let line := dropFinalMarker ['*', '/'] line
  let line := dropMarker ['/', '/'] line
  let line := dropMarker ['*'] line
  Text.trim line

/-- Lines without the empty ones at the front and at the end. -/
def trimEmptyLines (lines : List (List Char)) : List (List Char) :=
  ((lines.dropWhile List.isEmpty).reverse.dropWhile List.isEmpty).reverse

/-- The text that a comment block documents with. -/
def stripChars (comment : List Char) : List Char :=
  Text.joinLines (trimEmptyLines ((Text.lines comment).map stripLine))

/-- The text that a comment block documents with. -/
def strip (comment : String) : String :=
  String.ofList (stripChars comment.toList)

end ProtocolHeaders.Legacy.Comment
