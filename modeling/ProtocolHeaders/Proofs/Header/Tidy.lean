import Mathlib.Data.List.TakeWhile
import ProtocolHeaders.Header.Source
import ProtocolHeaders.Proofs.Text.Lines
import ProtocolHeaders.Proofs.Text.Trimming

/-!
# Tidy texts

A tidy text is made line by line, so the front of a text is tidied by itself as long as not all
that follows is blank. The headers of one run begin with the same lines, and so they are
different texts as soon as what stands behind these lines differs.
-/

namespace ProtocolHeaders.Header

open Text (dropFinalReturn joinLines lines_append_break splitOn splitOn_append_separator
  splitOn_of_notMem trimEnd)

/-- Lines are tidied by themselves unless all that follow are blank. -/
theorem tidyLines_append {first second : List (List Char)} (notBlank : tidyLines second ≠ []) :
    tidyLines (first ++ second) = first.map trimEnd ++ tidyLines second := by
  have someLine : ((second.map trimEnd).reverse.dropWhile List.isEmpty).isEmpty = false := by
    simpa [tidyLines] using notBlank
  simp [tidyLines, List.dropWhile_append, someLine]

/-- Every line of a tidy text has a line break behind it. -/
theorem tidyChars_eq_flatMap (text : List Char) :
    tidyChars text = (tidyLines (Text.lines text)).flatMap (· ++ ['\n']) := by
  rw [tidyChars]
  induction tidyLines (Text.lines text) with
  | nil => rfl
  | cons line others inductionHypothesis =>
      cases others with
      | nil => simp [joinLines]
      | cons next more => simpa [joinLines] using inductionHypothesis

/-- A visible line is left. -/
theorem tidyLines_ne_nil {lines : List (List Char)} {line : List Char} (listed : line ∈ lines)
    (notBlank : trimEnd line ≠ []) : tidyLines lines ≠ [] := by
  intro allBlank
  rw [tidyLines, List.reverse_eq_nil_iff, List.dropWhile_eq_nil_iff] at allBlank
  have blank := allBlank (trimEnd line) (List.mem_reverse.mpr (List.mem_map_of_mem listed))
  exact notBlank (List.isEmpty_iff.mp blank)

/-- The front of a tidy text, up to a line break. -/
def tidyFront (front : List Char) : List Char :=
  ((splitOn '\n' front).map dropFinalReturn).flatMap fun line => trimEnd line ++ ['\n']

/-- The front of a text is tidied by itself unless all that follows is blank. -/
theorem tidyChars_append_break (front : List Char) {rest : List Char}
    (notBlank : tidyLines (Text.lines rest) ≠ []) :
    tidyChars (front ++ '\n' :: rest) = tidyFront front ++ tidyChars rest := by
  rw [tidyChars_eq_flatMap, tidyChars_eq_flatMap, lines_append_break, tidyLines_append notBlank,
    List.flatMap_append, List.flatMap_map, tidyFront]

/-- A front is tidied part by part. -/
theorem tidyFront_append_break (first second : List Char) :
    tidyFront (first ++ '\n' :: second) = tidyFront first ++ tidyFront second := by
  simp only [tidyFront, splitOn_append_separator, List.map_append, List.flatMap_append]

/-! ## Texts that go on in a line -/

/-- The front of a text that goes on in the last line of the front, made tidy: this line is left
as it is. -/
def tidyOpening (front : List Char) : List Char :=
  ((splitOn '\n' front).dropLast.flatMap fun line => trimEnd (dropFinalReturn line) ++ ['\n']) ++
    (splitOn '\n' front).getLastD []

section

variable {front rest line : List Char} {c : Char}

/-- A front on one line is left as it is. -/
theorem tidyOpening_of_notMem (oneLine : '\n' ∉ front) : tidyOpening front = front := by
  rw [tidyOpening, splitOn_of_notMem oneLine]
  rfl

/-- The lines before the last one of a front are tidied. -/
theorem tidyOpening_append_break (first second : List Char) :
    tidyOpening (first ++ '\n' :: second) = tidyFront first ++ tidyOpening second := by
  obtain ⟨lines, last, segments⟩ := Text.exists_splitOn_eq second
  rw [tidyOpening, tidyOpening, splitOn_append_separator, segments, ← List.append_assoc]
  simp [tidyFront, List.flatMap_map]

/-- The front of a text ends with a line break when it is tidied. -/
theorem exists_tidyFront_eq (front : List Char) : ∃ lines, tidyFront front = lines ++ ['\n'] := by
  obtain ⟨lines, last, segments⟩ := Text.exists_splitOn_eq front
  rw [tidyFront, segments, List.map_append, List.flatMap_append, List.map_singleton,
    List.flatMap_singleton, ← List.append_assoc]
  exact ⟨_, rfl⟩

/-- A line that is not blank is tidied by itself. -/
theorem tidyLines_cons (notBlank : trimEnd line ≠ []) (others : List (List Char)) :
    tidyLines (line :: others) = trimEnd line :: tidyLines others := by
  have isKept : (trimEnd line).isEmpty = false := by simpa using notBlank
  rw [tidyLines, List.map_cons, List.reverse_cons, List.dropWhile_append]
  split
  · rename_i nothingElse
    simp [tidyLines, List.isEmpty_iff.mp nothingElse, isKept]
  · simp [tidyLines]

/-- What stands in front of a text in its first line is left as it is, if the text does not begin
with a blank. -/
theorem exists_tidyLines_eq (notBlank : Text.isBlank c = false) (rest : List Char) :
    ∃ line others, ∀ front, '\n' ∉ front ->
      tidyLines (Text.lines (front ++ c :: rest)) = (front ++ c :: line) :: others := by
  have notBreak : c ≠ '\n' := by
    rintro rfl
    cases notBlank
  have notReturn : c ≠ '\r' := by
    rintro rfl
    cases notBlank
  obtain ⟨line, others, lines⟩ := Text.exists_lines_append notBreak notReturn rest
  have someText : Text.onlyBlanks (c :: line) = false := by
    simp [Text.onlyBlanks, notBlank]
  refine ⟨trimEnd line, tidyLines others, fun front oneLine => ?_⟩
  have trimmed : trimEnd (front ++ c :: line) = front ++ c :: trimEnd line := by
    rw [Text.trimEnd_append someText, Text.trimEnd_cons notBlank]
  have notNil : trimEnd (front ++ c :: line) ≠ [] := by
    simp [trimmed]
  rw [lines front oneLine, tidyLines_cons notNil, trimmed]

/-- The front of a text is tidied by itself as far as the line in which it goes on. -/
theorem tidyChars_append (notBlank : Text.isBlank c = false) (front rest : List Char) :
    tidyChars (front ++ c :: rest) = tidyOpening front ++ tidyChars (c :: rest) := by
  obtain ⟨line, others, lines⟩ := exists_tidyLines_eq notBlank rest
  have goesOn : ∀ front, '\n' ∉ front ->
      tidyChars (front ++ c :: rest) = front ++ tidyChars (c :: rest) := by
    intro front oneLine
    rw [tidyChars_eq_flatMap, lines front oneLine, tidyChars_eq_flatMap (c :: rest),
      ← List.nil_append (c :: rest), lines [] List.not_mem_nil]
    simp
  by_cases broken : '\n' ∈ front
  · obtain ⟨first, second, rfl, oneLine⟩ := Text.exists_last_break broken
    have someLine : tidyLines (Text.lines (second ++ c :: rest)) ≠ [] := by
      rw [lines second oneLine]
      exact List.cons_ne_nil _ _
    rw [List.append_assoc, List.cons_append, tidyChars_append_break first someLine,
      goesOn second oneLine, tidyOpening_append_break, tidyOpening_of_notMem oneLine,
      List.append_assoc]
  · rw [goesOn front broken, tidyOpening_of_notMem broken]

/-- A text that does not begin with a blank begins with the same character when it is tidied. -/
theorem exists_tidyChars_eq_cons (notBlank : Text.isBlank c = false) (rest : List Char) :
    ∃ others, tidyChars (c :: rest) = c :: others := by
  obtain ⟨line, others, lines⟩ := exists_tidyLines_eq notBlank rest
  rw [tidyChars_eq_flatMap, ← List.nil_append (c :: rest), lines [] List.not_mem_nil]
  exact ⟨_, rfl⟩

end

/-! ## Headers of one run -/

/-- Two texts stand on lines of their own if there is a break between them. -/
theorem toList_append_break (front rest : String) :
    (front ++ "\n" ++ rest).toList = front.toList ++ '\n' :: rest.toList := by
  have lineBreak : "\n".toList = ['\n'] := by decide +kernel
  rw [String.toList_append, String.toList_append, lineBreak, List.append_assoc]
  rfl

/-- A text with a closing brace on a line of its own is not all blank. -/
theorem tidyLines_ne_nil_of_brace (text : String) :
    tidyLines (Text.lines (text ++ "\n" ++ "\x7d\n").toList) ≠ [] := by
  rw [toList_append_break, lines_append_break]
  have closing : ['\x7d'] ∈ Text.lines "\x7d\n".toList := by decide +kernel
  exact tidyLines_ne_nil (List.mem_append_right _ closing) (by decide +kernel)

/-- A header has the front of all headers of its run, then its first include, and then the
rest. -/
theorem exists_toList_source (options : Options) (first : String) (others : List String)
    (body : String) :
    ∃ rest, (source options (first :: others) body).toList =
      tidyFront (banner ++ checksumLine options).toList ++
        (tidyFront ("#pragma once\n\n#include " ++ first).toList ++ rest) := by
  obtain ⟨text, parts⟩ : ∃ text, source options (first :: others) body =
      tidy (banner ++ checksumLine options ++ "\n" ++ ("#pragma once\n\n#include " ++ first) ++
        "\n" ++ (text ++ "\n" ++ "\x7d\n")) := by
    have start : "\n#pragma once\n\n" = "\n" ++ "#pragma once\n\n" := by decide +kernel
    have opening : "#pragma once\n\n#include " = "#pragma once\n\n" ++ "#include " := by
      decide +kernel
    have closing : "\n\x7d\n" = "\n" ++ "\x7d\n" := by decide +kernel
    refine ⟨String.join (others.map includeLine) ++ "\nnamespace " ++ options.namespaceName ++
      " \x7b\n" ++ body, ?_⟩
    unfold source
    rewrite [start, opening, closing]
    simp only [List.map_cons, String.join_cons, includeLine, String.append_assoc]
  refine ⟨tidyChars (text ++ "\n" ++ "\x7d\n").toList, ?_⟩
  rewrite [parts, tidy, String.toList_ofList, toList_append_break,
    tidyChars_append_break _ (tidyLines_ne_nil_of_brace text), toList_append_break,
    tidyFront_append_break, List.append_assoc]
  rfl

/-- Two headers of one run are one text only if they agree from their first include on. -/
theorem exists_append_eq_append {options : Options} {first otherFirst : String}
    {others otherOthers : List String} {body otherBody : String}
    (same : source options (first :: others) body =
      source options (otherFirst :: otherOthers) otherBody) :
    ∃ rest otherRest, tidyFront ("#pragma once\n\n#include " ++ first).toList ++ rest =
      tidyFront ("#pragma once\n\n#include " ++ otherFirst).toList ++ otherRest := by
  obtain ⟨rest, parts⟩ := exists_toList_source options first others body
  obtain ⟨otherRest, otherParts⟩ := exists_toList_source options otherFirst otherOthers otherBody
  have sameText := congrArg String.toList same
  rw [parts, otherParts] at sameText
  exact ⟨rest, otherRest, List.append_cancel_left sameText⟩

end ProtocolHeaders.Header
