import ProtocolHeaders.Legacy.Comment
import ProtocolHeaders.Proofs.Header.DocComments

/-!
# Comments are read back

Reading a comment undoes writing it. Of the markers that a line of a comment is stripped of, only
the star in front of it was added, and what the line itself begins or ends with is never taken for
a marker. So a text comes back whole if no line of it begins or ends in a blank or contains the
end of a comment, and neither its first line nor its last is empty.
-/

namespace ProtocolHeaders.Legacy.Comment

open Header (IsTerminatorFree commentLines commentText docComment docCommentChars docLineChars
  documentedLines)
open Text (IsTrimmed isBlank joinLines lines onlyBlanks splitOn trim)

variable {text line indent front : List Char}

/-! ## Lines -/

theorem dropMarker_of_ne {c first : Char} (other : first ≠ c) (marker text : List Char) :
    dropMarker (first :: marker) (c :: text) = c :: text := by
  simp [dropMarker, other]

/-- A text without the end of a comment has none at its end. -/
theorem dropFinalMarker_eq_self (free : IsTerminatorFree text) :
    dropFinalMarker ['*', '/'] text = text := by
  refine if_neg fun isSuffix => ?_
  obtain ⟨front, parts⟩ := List.isSuffixOf_iff_suffix.mp isSuffix
  exact Header.isTerminatorFree_iff.mp free front [] parts.symm

/-- The indent does not matter. -/
theorem stripLine_append (blanks : ∀ c ∈ front, isBlank c = true) (line : List Char) :
    stripLine (front ++ line) = stripLine line := by
  rw [stripLine, Text.trim_append blanks, stripLine]

/-- The star in front of a line is the only marker that is found. -/
theorem stripLine_star (trimmed : trim line = line) (someText : line ≠ [])
    (free : IsTerminatorFree line) : stripLine (' ' :: '*' :: ' ' :: line) = line := by
  obtain ⟨-, first, last⟩ := Text.trim_eq_iff.mp trimmed
  obtain ⟨c, isLast⟩ := Option.ne_none_iff_exists'.mp (mt List.getLast?_eq_none_iff.mp someText)
  have blank : ∀ c ∈ [' '], isBlank c = true := List.forall_mem_singleton.mpr (by decide)
  have withoutIndent : trim (' ' :: '*' :: ' ' :: line) = '*' :: ' ' :: line := by
    rw [Text.trim_eq_iff]
    refine ⟨⟨[' '], [], by simp, blank, nofun⟩, ?_, ?_⟩
    · rintro _ ⟨⟩
      decide
    · rw [List.getLast?_cons, List.getLast?_cons, isLast]
      rintro _ ⟨⟩
      exact last c isLast
  have withoutSpace : trim (' ' :: line) = line :=
    Text.trim_eq_iff.mpr ⟨⟨[' '], [], by simp, blank, nofun⟩, first, last⟩
  have starFree : IsTerminatorFree ('*' :: ' ' :: line) :=
    Header.isTerminatorFree_cons.mpr
      ⟨fun _ => by simp, Header.isTerminatorFree_cons.mpr ⟨nofun, free⟩⟩
  rw [stripLine]
  simp only [withoutIndent, dropMarker_of_ne (show '/' ≠ '*' by decide),
    dropFinalMarker_eq_self starFree]
  simpa [dropMarker] using withoutSpace

/-- A line is read back from its line of the comment. -/
theorem stripLine_commentText (blanks : ∀ c ∈ indent, isBlank c = true)
    (trimmed : trim line = line) (free : IsTerminatorFree line) :
    stripLine (commentText indent line) = line := by
  rw [commentText, List.append_assoc, stripLine_append blanks]
  split
  · rename_i blank
    rw [Text.eq_nil_of_onlyBlanks trimmed blank]
    decide
  · rename_i notBlank
    have someText : line ≠ [] := fun isNil => notBlank (isNil ▸ rfl)
    have shown : docLineChars line = line := by
      rw [docLineChars, Text.trimEnd_eq_self (Text.trim_eq_iff.mp trimmed).last,
        Header.breakTerminators_eq_self free]
    rw [shown]
    exact stripLine_star trimmed someText free

/-! ## Texts -/

/-- Lines that a comment holds as they are. -/
structure AreReadable (parts : List (List Char)) : Prop where
  trimmed : ∀ line ∈ parts, trim line = line
  free : ∀ line ∈ parts, ∀ front back, line ≠ front ++ '*' :: '/' :: back
  first : parts.head? ≠ some []
  last : parts.getLast? ≠ some []

variable {parts : List (List Char)}

/-- All lines are documented: the first and the last are not blank. -/
theorem AreReadable.documentedLines_eq (readable : AreReadable parts)
    (areLines : lines text = parts) : documentedLines text = parts := by
  have notBlank : ∀ line ∈ parts, line ≠ [] → onlyBlanks line = false := by
    intro line listed someText
    rw [Bool.eq_false_iff]
    exact fun blank => someText (Text.eq_nil_of_onlyBlanks (readable.trimmed line listed) blank)
  rw [Header.documentedLines_eq_iff, areLines]
  refine ⟨⟨[], [], by simp, nofun, nofun⟩, fun line isFirst => ?_, fun line isLast => ?_⟩
  · exact notBlank line (List.mem_of_head? isFirst) fun isNil => readable.first (isNil ▸ isFirst)
  · exact notBlank line (List.mem_of_getLast? isLast) fun isNil => readable.last (isNil ▸ isLast)

/-- The lines of the comment are read as the opening, the lines of the text and the closing. -/
theorem AreReadable.map_stripLine (readable : AreReadable parts)
    (blanks : ∀ c ∈ indent, isBlank c = true) :
    (commentLines indent parts).map stripLine = [] :: parts ++ [[]] := by
  have read : ∀ line ∈ parts, stripLine (commentText indent line) = id line :=
    fun line listed =>
      stripLine_commentText blanks (readable.trimmed line listed)
        (Header.isTerminatorFree_iff.mpr (readable.free line listed))
  have opening : stripLine ['/', '*', '*'] = [] := by decide
  have closing : stripLine [' ', '*', '/'] = [] := by decide
  simp only [commentLines, List.cons_append, List.map_cons, List.map_append, List.map_map,
    List.map_nil, stripLine_append blanks, opening, closing]
  rw [List.map_congr_left (fun line listed => (Function.comp_apply ..).trans (read line listed)),
    List.map_id]

/-- The empty lines of the opening and the closing are the only ones that are dropped. -/
theorem AreReadable.trimEmptyLines_eq (readable : AreReadable parts) :
    trimEmptyLines ([] :: parts ++ [[]]) = parts := by
  refine Text.rdropWhile_dropWhile_eq_iff.mpr ⟨⟨[[]], [[]], rfl, by decide, by decide⟩, ?_, ?_⟩
  · rintro (_ | ⟨c, line⟩) isFirst
    · exact absurd isFirst readable.first
    · rfl
  · rintro (_ | ⟨c, line⟩) isLast
    · exact absurd isLast readable.last
    · rfl

/-- Reading the comment of a text gives its lines. -/
theorem AreReadable.stripChars_docCommentChars (readable : AreReadable parts)
    (areLines : lines text = parts) (someLine : parts ≠ []) (spaces : ∀ c ∈ indent, c = ' ') :
    stripChars (docCommentChars text indent) = joinLines parts := by
  have documented := readable.documentedLines_eq areLines
  have oneLine : ∀ line ∈ parts, '\n' ∉ line :=
    fun line listed => Text.notMem_of_mem_lines (areLines ▸ listed)
  have isComment := Header.isBlockComment_commentLines spaces oneLine
  have noReturn : ∀ line ∈ commentLines indent parts, line.getLast? ≠ some '\r' :=
    fun line listed isReturn => absurd (isComment.trimmed line listed '\r' isReturn) (by decide)
  have blanks : ∀ c ∈ indent, isBlank c = true := fun c listed => spaces c listed ▸ by decide
  rw [Header.docCommentChars_eq_flatMap (documented ▸ someLine), documented, stripChars,
    Text.lines_flatMap_break isComment.oneLine noReturn, readable.map_stripLine blanks,
    readable.trimEmptyLines_eq]

/-- Readable segments of a text are its lines. -/
theorem AreReadable.lines_eq (readable : AreReadable (splitOn '\n' text)) :
    lines text = splitOn '\n' text := by
  refine Text.lines_eq_splitOn (fun line listed isReturn => ?_) readable.last
  have notBlank := (Text.trim_eq_iff.mp (readable.trimmed line listed)).last '\r' isReturn
  exact absurd notBlank (by decide)

/-- Reading a comment undoes writing it. The lines of the text are here the segments between its
line feeds, so a line feed at the end leaves an empty last line. If no line has a blank at either
end or contains the end of a comment, and neither the first nor the last is empty, the text is read
back from its comment, behind every indent of spaces. Other texts are told by `lines`, in which a
line feed ends the line before it, with a carriage return in front of it: whatever has the same
ones, such as the text with a line break behind its last line, is read as the text too. -/
theorem comment_reads_back {text indent : String}
    (readable : AreReadable (splitOn '\n' text.toList)) (spaces : ∀ c ∈ indent.toList, c = ' ') :
    strip (docComment text indent) = text ∧
      ∀ other : String, lines other.toList = lines text.toList ->
        strip (docComment other indent) = text := by
  have fromLines : ∀ other : String, lines other.toList = lines text.toList ->
      strip (docComment other indent) = text := by
    intro other sameLines
    have areLines := sameLines.trans readable.lines_eq
    rw [strip, docComment, String.toList_ofList,
      readable.stripChars_docCommentChars areLines (Text.splitOn_ne_nil _ _) spaces,
      Text.joinLines_splitOn, String.ofList_toList]
  exact ⟨fromLines text rfl, fromLines⟩

/-- A text whose lines begin and end with what could be taken for markers. -/
def markersText : String := "/** a **\n\n*\n// b //\n* / * /\n/"

theorem markers_text_reads_back :
    AreReadable (splitOn '\n' markersText.toList) ∧
      strip (docComment markersText "    ") = markersText ∧
      strip (docComment (markersText ++ "\r\n") "    ") = markersText := by
  have free : ∀ line ∈ splitOn '\n' markersText.toList, IsTerminatorFree line := by
    decide +kernel
  have readable : AreReadable (splitOn '\n' markersText.toList) :=
    { trimmed := by decide +kernel
      free := fun line listed => Header.isTerminatorFree_iff.mp (free line listed)
      first := by decide +kernel
      last := by decide +kernel }
  obtain ⟨same, fromLines⟩ := @comment_reads_back markersText "    " readable (by simp)
  exact ⟨readable, same, fromLines (markersText ++ "\r\n") (by decide +kernel)⟩

end ProtocolHeaders.Legacy.Comment
