/-!
# Segments and lines of a text

`splitOn` cuts a text at every occurrence of a separator, so a text has one
segment more than it has separators. `lines` is its refinement for line breaks:
a final break opens no further line, and a carriage return directly before a
break belongs to the break.
-/

namespace ProtocolHeaders.Text

/-- Put a character in front of the first segment. -/
def extendFirst (c : Char) : List (List Char) -> List (List Char)
  | [] => [[c]]
  | first :: others => (c :: first) :: others

/-- The segments between the occurrences of a separator; there is always one. -/
def splitOn (separator : Char) (text : List Char) : List (List Char) :=
  text.foldr
    (fun c segments => if c = separator then [] :: segments else extendFirst c segments)
    [[]]

@[simp] theorem splitOn_nil (separator : Char) : splitOn separator [] = [[]] := rfl

/-- A separator begins a new segment, and any other character joins the first. -/
theorem splitOn_cons (separator c : Char) (text : List Char) :
    splitOn separator (c :: text) =
      if c = separator then [] :: splitOn separator text
      else extendFirst c (splitOn separator text) := rfl

/-- A text has at least one segment. -/
theorem splitOn_ne_nil (separator : Char) (text : List Char) : splitOn separator text ≠ [] := by
  cases text with
  | nil => simp
  | cons c text =>
      rw [splitOn_cons]
      split
      · simp
      · cases splitOn separator text <;> simp [extendFirst]

/-- A text without separators is its only segment. -/
theorem splitOn_of_notMem {separator : Char} {text : List Char} (free : separator ∉ text) :
    splitOn separator text = [text] := by
  induction text with
  | nil => rfl
  | cons c text inductionHypothesis =>
      rw [List.mem_cons, not_or] at free
      rw [splitOn_cons, if_neg (Ne.symm free.1), inductionHypothesis free.2, extendFirst]

/-- A separator keeps the segments before it apart from those behind it. -/
theorem splitOn_append_separator (separator : Char) (first second : List Char) :
    splitOn separator (first ++ separator :: second) =
      splitOn separator first ++ splitOn separator second := by
  induction first with
  | nil => simp [splitOn_cons]
  | cons c first inductionHypothesis =>
      rw [List.cons_append, splitOn_cons, splitOn_cons, inductionHypothesis]
      split
      · rfl
      · obtain ⟨start, others, segments⟩ :=
          List.exists_cons_of_ne_nil (splitOn_ne_nil separator first)
        rw [segments, List.cons_append, extendFirst, extendFirst, List.cons_append]

/-- A segment before a line break, less the carriage return that ends it. -/
def dropFinalReturn (segment : List Char) : List Char :=
  if segment.getLast? = some '\r' then segment.dropLast else segment

/-- The lines of a text, without their breaks. A carriage return is part of the
break that follows it; elsewhere, at the end of the text too, it is text. -/
def lines (text : List Char) : List (List Char) :=
  let segments := splitOn '\n' text
  let final := segments.getLastD []
  segments.dropLast.map dropFinalReturn ++ (if final.isEmpty then [] else [final])

/-- Lines joined by line breaks. -/
def joinLines (parts : List (List Char)) : List Char :=
  List.intercalate ['\n'] parts

end ProtocolHeaders.Text
