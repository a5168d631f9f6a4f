import ProtocolHeaders.Text.Segment

/-!
# Lines of a text

Segments between separators are free of separators, and a text is its segments put together
again. Lines that each have a break behind them are read as they are.
-/

namespace ProtocolHeaders.Text

variable {separator : Char} {text segment line : List Char}

/-- Splitting a text is splitting it as a list of characters. -/
theorem splitOn_eq_list_splitOn (separator : Char) (text : List Char) :
    splitOn separator text = text.splitOn separator := by
  induction text with
  | nil => rfl
  | cons c text inductionHypothesis =>
      obtain ⟨start, others, segments⟩ :=
        List.exists_cons_of_ne_nil (splitOn_ne_nil separator text)
      rw [List.splitOn_cons_eq_if_modifyHead, ← inductionHypothesis, splitOn_cons, segments]
      simp only [extendFirst, List.modifyHead_cons, beq_iff_eq]

/-- A text is what stands between its breaks, joined again. -/
theorem joinLines_splitOn (text : List Char) : joinLines (splitOn '\n' text) = text := by
  rw [joinLines, splitOn_eq_list_splitOn, List.intercalate_splitOn]

/-- There is no separator in a segment. -/
theorem notMem_of_mem_splitOn (listed : segment ∈ splitOn separator text) :
    separator ∉ segment := by
  induction text generalizing segment with
  | nil =>
      rw [splitOn_nil, List.mem_singleton] at listed
      exact listed ▸ List.not_mem_nil
  | cons c text inductionHypothesis =>
      rw [splitOn_cons] at listed
      split at listed
      · rcases List.mem_cons.mp listed with rfl | listed
        · exact List.not_mem_nil
        · exact inductionHypothesis listed
      · rename_i notSeparator
        obtain ⟨start, others, segments⟩ :=
          List.exists_cons_of_ne_nil (splitOn_ne_nil separator text)
        rw [segments] at listed inductionHypothesis
        rcases List.mem_cons.mp listed with rfl | listed
        · rw [List.mem_cons, not_or]
          exact ⟨Ne.symm notSeparator, inductionHypothesis List.mem_cons_self⟩
        · exact inductionHypothesis (List.mem_cons_of_mem _ listed)

/-! ## Lines -/

/-- The last segment is a line of its own unless it is empty. -/
theorem lines_of_splitOn {front : List (List Char)} {final : List Char}
    (segments : splitOn '\n' text = front ++ [final]) :
    lines text = front.map dropFinalReturn ++ (if final.isEmpty then [] else [final]) := by
  simp [lines, segments]

/-- A text has a last segment. -/
theorem exists_splitOn_eq (text : List Char) :
    ∃ front final, splitOn '\n' text = front ++ [final] := by
  obtain ⟨front, final, segments⟩ :=
    (List.eq_nil_or_concat (splitOn '\n' text)).resolve_left (splitOn_ne_nil '\n' text)
  exact ⟨front, final, segments.trans List.concat_eq_append⟩

/-- A segment without a carriage return at its end stays as it is. -/
theorem dropFinalReturn_eq_self (noReturn : segment.getLast? ≠ some '\r') :
    dropFinalReturn segment = segment :=
  if_neg noReturn

/-- Dropping a carriage return adds no characters. -/
theorem dropFinalReturn_subset (segment : List Char) : dropFinalReturn segment ⊆ segment := by
  unfold dropFinalReturn
  split
  · exact List.dropLast_subset segment
  · exact List.Subset.refl segment

/-- There is no break in a line. -/
theorem notMem_of_mem_lines (listed : line ∈ lines text) : '\n' ∉ line := by
  obtain ⟨front, final, segments⟩ := exists_splitOn_eq text
  have free : ∀ segment ∈ front ++ [final], '\n' ∉ segment :=
    fun segment member => notMem_of_mem_splitOn (segments ▸ member)
  rw [lines_of_splitOn segments, List.mem_append, List.mem_map] at listed
  rcases listed with ⟨segment, inFront, rfl⟩ | isFinal
  · exact fun broken =>
      free segment (List.mem_append_left _ inFront) (dropFinalReturn_subset segment broken)
  · have same : line = final := by
      split at isFinal
      · cases isFinal
      · exact List.mem_singleton.mp isFinal
    exact same ▸ free final List.mem_concat_self

/-- A line break keeps the lines before it apart from those behind it. -/
theorem lines_append_break (first second : List Char) :
    lines (first ++ '\n' :: second) =
      (splitOn '\n' first).map dropFinalReturn ++ lines second := by
  obtain ⟨front, final, segments⟩ := exists_splitOn_eq second
  have allSegments : splitOn '\n' (first ++ '\n' :: second) =
      splitOn '\n' first ++ front ++ [final] := by
    rw [splitOn_append_separator, segments, List.append_assoc]
  rw [lines_of_splitOn allSegments, lines_of_splitOn segments, List.map_append,
    List.append_assoc]

/-- A text with breaks has a last one. -/
theorem exists_last_break (broken : '\n' ∈ text) :
    ∃ first second, text = first ++ '\n' :: second ∧ '\n' ∉ second := by
  obtain ⟨behind, before, reversed, free⟩ :=
    List.eq_append_cons_of_mem (List.mem_reverse.mpr broken)
  refine ⟨before.reverse, behind.reverse, ?_, by simpa using free⟩
  rw [← List.reverse_reverse text, reversed]
  simp

/-- What stands in front of a character that is no carriage return stays in front of it when a
final carriage return is dropped. -/
theorem exists_dropFinalReturn_append {c : Char} (notReturn : c ≠ '\r') (others : List Char) :
    ∃ line, ∀ front, dropFinalReturn (front ++ c :: others) = front ++ c :: line := by
  by_cases returns : others.getLast? = some '\r'
  · refine ⟨others.dropLast, fun front => ?_⟩
    have notNil : others ≠ [] := by
      rintro rfl
      cases returns
    rw [dropFinalReturn, if_pos (by simp [List.getLast?_cons, returns]),
      List.dropLast_append_of_ne_nil (List.cons_ne_nil c others),
      List.dropLast_cons_of_ne_nil notNil]
  · refine ⟨others, fun front => dropFinalReturn_eq_self ?_⟩
    rw [List.getLast?_append, List.getLast?_cons]
    cases last : others.getLast? with
    | none =>
        rintro ⟨⟩
        exact notReturn rfl
    | some d =>
        rintro ⟨⟩
        exact returns last

/-- What stands in front of a text without a break belongs to its first line. -/
theorem exists_lines_append {c : Char} (notBreak : c ≠ '\n') (notReturn : c ≠ '\r')
    (rest : List Char) :
    ∃ line others, ∀ front, '\n' ∉ front ->
      lines (front ++ c :: rest) = (front ++ c :: line) :: others := by
  by_cases broken : '\n' ∈ rest
  · obtain ⟨first, second, rfl, oneLine⟩ := List.eq_append_cons_of_mem broken
    obtain ⟨line, dropped⟩ := exists_dropFinalReturn_append notReturn first
    refine ⟨line, lines second, fun front free => ?_⟩
    have whole : '\n' ∉ front ++ c :: first := by
      simp [free, oneLine, Ne.symm notBreak]
    rw [← List.cons_append, ← List.append_assoc, lines_append_break, splitOn_of_notMem whole,
      List.map_singleton, dropped, List.singleton_append]
  · refine ⟨rest, [], fun front free => ?_⟩
    have whole : '\n' ∉ front ++ c :: rest := by
      simp [free, broken, Ne.symm notBreak]
    have segments : splitOn '\n' (front ++ c :: rest) = [] ++ [front ++ c :: rest] :=
      splitOn_of_notMem whole
    rw [lines_of_splitOn segments]
    simp

/-- Lines that each have a break behind them are read as they are. -/
theorem lines_flatMap_break {parts : List (List Char)}
    (noBreak : ∀ part ∈ parts, '\n' ∉ part)
    (noReturn : ∀ part ∈ parts, part.getLast? ≠ some '\r') :
    lines (parts.flatMap (· ++ ['\n'])) = parts := by
  induction parts with
  | nil => rfl
  | cons part others inductionHypothesis =>
      rw [List.forall_mem_cons] at noBreak noReturn
      rw [List.flatMap_cons, List.append_assoc, List.singleton_append, lines_append_break,
        splitOn_of_notMem noBreak.1, inductionHypothesis noBreak.2 noReturn.2, List.map_singleton,
        dropFinalReturn_eq_self noReturn.1, List.singleton_append]

/-- If no carriage return stands in front of a break and the last segment is not empty, the
lines are what stands between the breaks. -/
theorem lines_eq_splitOn
    (noReturn : ∀ segment ∈ splitOn '\n' text, segment.getLast? ≠ some '\r')
    (someFinal : (splitOn '\n' text).getLast? ≠ some []) : lines text = splitOn '\n' text := by
  obtain ⟨front, final, segments⟩ := exists_splitOn_eq text
  rw [segments] at noReturn someFinal ⊢
  have notEmpty : final.isEmpty = false := by
    cases final with
    | nil => exact absurd List.getLast?_concat someFinal
    | cons c others => rfl
  have kept : front.map dropFinalReturn = front := by
    have same : ∀ segment ∈ front, dropFinalReturn segment = id segment :=
      fun segment member =>
        dropFinalReturn_eq_self (noReturn segment (List.mem_append_left _ member))
    rw [List.map_congr_left same, List.map_id]
  rw [lines_of_splitOn segments, notEmpty, kept, if_neg Bool.false_ne_true]

end ProtocolHeaders.Text
