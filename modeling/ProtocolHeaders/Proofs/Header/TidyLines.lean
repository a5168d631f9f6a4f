import Mathlib.Data.List.Forall2
import ProtocolHeaders.Proofs.Header.Tidy

/-!
# The lines of a tidy text

A tidy text is its lines, each with one line break behind it, whatever mixture of breaks and
blanks the text had from which it was made. No line of it ends in a blank, so none ends in a
carriage return that could be taken for a part of the break behind it. Therefore its lines are
read back as they were made (`lines_tidyChars`), and all else about it follows from what these
lines are like (`AreTidy`). Lines that are like this are left as they are when they are made tidy
once more.
-/

namespace ProtocolHeaders.Header

open Text (IsTrimmedEnd isBlank lines onlyBlanks trimEnd)

/-! ## Tidy lines -/

/-- Lines as a tidy text has them: none ends in a blank, and the last one is not blank. -/
structure AreTidy (all : List (List Char)) : Prop where
  ends : ∀ line ∈ all, ∀ c ∈ line.getLast?, isBlank c = false
  last : ∀ line ∈ all.getLast?, onlyBlanks line = false

/-- Only a blank line becomes empty. -/
theorem isEmpty_trimEnd (line : List Char) : (trimEnd line).isEmpty = onlyBlanks line := by
  rw [Bool.eq_iff_iff, List.isEmpty_iff, Text.trimEnd_eq_nil_iff]

/-- A line is blank if it is blank without its trailing blanks. -/
theorem onlyBlanks_trimEnd (line : List Char) : onlyBlanks (trimEnd line) = onlyBlanks line := by
  have settled : trimEnd (trimEnd line) = trimEnd line :=
    Text.trimEnd_eq_self fun _ isLast => Text.isBlank_getLast?_trimEnd isLast
  rw [← isEmpty_trimEnd, settled, isEmpty_trimEnd]

/-- Making lines tidy drops the blank ones at the end and trims the others. -/
theorem tidyLines_eq_map (all : List (List Char)) :
    tidyLines all = (all.rdropWhile onlyBlanks).map trimEnd := by
  have isDropped : List.isEmpty ∘ trimEnd = onlyBlanks := funext isEmpty_trimEnd
  rw [tidyLines, ← List.map_reverse, List.dropWhile_map, isDropped, ← List.map_reverse,
    List.rdropWhile]

/-- What is made tidy is tidy. -/
theorem areTidy_tidyLines (all : List (List Char)) : AreTidy (tidyLines all) := by
  rw [tidyLines_eq_map]
  constructor
  · intro line listed c isLast
    obtain ⟨source, -, rfl⟩ := List.mem_map.mp listed
    exact Text.isBlank_getLast?_trimEnd isLast
  · intro line isLast
    rw [List.getLast?_map, Option.mem_def, Option.map_eq_some_iff] at isLast
    obtain ⟨source, isKept, rfl⟩ := isLast
    rw [onlyBlanks_trimEnd]
    exact Text.condition_getLast?_rdropWhile isKept

section

variable {all : List (List Char)}

/-- Tidy lines are left as they are. -/
theorem AreTidy.tidyLines_eq (areTidy : AreTidy all) : tidyLines all = all := by
  have trimmed : ∀ line ∈ all, trimEnd line = id line :=
    fun line listed => Text.trimEnd_eq_self (areTidy.ends line listed)
  rw [tidyLines_eq_map, Text.rdropWhile_eq_self areTidy.last, List.map_congr_left trimmed,
    List.map_id]

/-- The breaks that are put behind tidy lines are those that are found. -/
theorem AreTidy.lines_flatMap (areTidy : AreTidy all) (noBreak : ∀ line ∈ all, '\n' ∉ line) :
    lines (all.flatMap (· ++ ['\n'])) = all := by
  apply Text.lines_flatMap_break noBreak
  intro line listed returns
  have notBlank := areTidy.ends line listed '\r' returns
  cases notBlank

/-- The last of some tidy lines ends in a visible character, which stands in front of the last
break. -/
theorem AreTidy.exists_flatMap_eq (areTidy : AreTidy all) (someLine : all ≠ []) :
    ∃ front c, all.flatMap (· ++ ['\n']) = front ++ [c, '\n'] ∧ isBlank c = false := by
  obtain ⟨others, last, rfl⟩ := (List.eq_nil_or_concat' all).resolve_left someLine
  have notBlank : onlyBlanks last = false := areTidy.last last List.getLast?_concat
  have someText : last ≠ [] := by
    rintro rfl
    cases notBlank
  obtain ⟨start, c, rfl⟩ := (List.eq_nil_or_concat' last).resolve_left someText
  refine ⟨others.flatMap (· ++ ['\n']) ++ start, c, ?_, ?_⟩
  · simp
  · exact areTidy.ends _ List.mem_concat_self c List.getLast?_concat

end

/-! ## Tidy texts -/

/-- The lines of a tidy text are the lines of which it was made. -/
theorem lines_tidyChars (text : List Char) :
    lines (tidyChars text) = tidyLines (lines text) := by
  rw [tidyChars_eq_flatMap]
  apply (areTidy_tidyLines (lines text)).lines_flatMap
  rw [tidyLines_eq_map]
  intro line listed broken
  obtain ⟨source, isKept, rfl⟩ := List.mem_map.mp listed
  have isLine : source ∈ lines text := (List.rdropWhile_prefix _ _).subset isKept
  exact Text.notMem_of_mem_lines isLine (Text.trimEnd_prefix.subset broken)

/-- Only a text of blank lines becomes empty. -/
theorem tidyChars_eq_nil_iff {text : List Char} :
    tidyChars text = [] ↔ ∀ line ∈ lines text, onlyBlanks line = true := by
  have noLine : tidyChars text = [] ↔ tidyLines (lines text) = [] := by
    rw [tidyChars_eq_flatMap, List.flatMap_eq_nil_iff, List.eq_nil_iff_forall_not_mem]
    simp
  rw [noLine, tidyLines_eq_map, List.map_eq_nil_iff, List.rdropWhile_eq_nil_iff]

/-- A tidy text stays as it is. -/
theorem tidyChars_tidyChars (text : List Char) : tidyChars (tidyChars text) = tidyChars text := by
  rw [tidyChars_eq_flatMap, lines_tidyChars, (areTidy_tidyLines _).tidyLines_eq,
    ← tidyChars_eq_flatMap]

/-- A text is what another one becomes when it is made tidy. -/
structure IsTidyOf (tidied text : List Char) : Prop where
  /-- It is its lines, each with one break behind it. -/
  breaks : tidied = (lines tidied).flatMap (· ++ ['\n'])
  areTidy : AreTidy (lines tidied)
  nil_iff : tidied = [] ↔ ∀ line ∈ lines text, onlyBlanks line = true
  /-- There is no second break in front of the last one, and not even a blank. -/
  ending : tidied ≠ [] -> ∃ front c, tidied = front ++ [c, '\n'] ∧ isBlank c = false
  /-- Its lines are those of the other text in their places, up to the last one that is not blank,
  each without its trailing blanks. -/
  kept : ∃ kept, IsTrimmedEnd onlyBlanks (lines text) kept ∧
    List.Forall₂ (IsTrimmedEnd isBlank) kept (lines tidied)

/-- A text is made tidy line by line. -/
theorem isTidyOf_tidyChars (text : List Char) : IsTidyOf (tidyChars text) text where
  breaks := by rw [lines_tidyChars, ← tidyChars_eq_flatMap]
  areTidy := by
    rw [lines_tidyChars]
    exact areTidy_tidyLines (lines text)
  nil_iff := tidyChars_eq_nil_iff
  ending someText := by
    rw [tidyChars_eq_flatMap] at someText ⊢
    apply (areTidy_tidyLines (lines text)).exists_flatMap_eq
    intro noLine
    rw [noLine] at someText
    exact someText rfl
  kept := by
    refine ⟨(lines text).rdropWhile onlyBlanks, Text.isTrimmedEnd_rdropWhile _ _, ?_⟩
    rw [lines_tidyChars, tidyLines_eq_map, List.forall₂_map_right_iff, List.forall₂_same]
    intro line _
    exact Text.isTrimmedEnd_rdropWhile isBlank line

/-- There is only one text that a text becomes. -/
theorem isTidyOf_iff {tidied text : List Char} :
    IsTidyOf tidied text ↔ tidied = tidyChars text := by
  constructor
  · rintro ⟨breaks, -, -, -, kept, isKept, trimmed⟩
    have linesAre : kept.map trimEnd = lines tidied := by
      rw [← List.forall₂_eq_eq_eq, List.forall₂_map_left_iff]
      exact trimmed.imp fun line inner isTrimmed => isTrimmed.eq_rdropWhile.symm
    rw [breaks, tidyChars_eq_flatMap, tidyLines_eq_map, ← isKept.eq_rdropWhile, linesAre]
  · rintro rfl
    exact isTidyOf_tidyChars text

/-- A tidy text is what a text becomes when it is made tidy. -/
theorem isTidyOf_tidy (text : String) : IsTidyOf (tidy text).toList text.toList := by
  rw [isTidyOf_iff, tidy, String.toList_ofList]

/-- A text that is made tidy keeps its lines but for the blanks at their ends and the blank lines
at its end, and one line break behind each of them. It is empty if and only if all lines were
blank. Making it tidy once more changes nothing. -/
theorem tidy_keeps_lines (text : String) :
    IsTidyOf (tidy text).toList text.toList ∧ tidy (tidy text) = tidy text := by
  refine ⟨isTidyOf_tidy text, ?_⟩
  rw [tidy, tidy, String.toList_ofList, tidyChars_tidyChars]

/-- A carriage return within a line stays, one at its end goes, with or without a break behind
it, and so do an em space and the last lines. -/
example : tidy "a \r\n\n\r b\u2003\n\u2003\r" = "a\n\n\r b\n" := by
  decide +kernel

end ProtocolHeaders.Header
