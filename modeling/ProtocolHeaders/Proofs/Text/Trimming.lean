import Mathlib.Data.List.DropRight
import ProtocolHeaders.Text.Blank

/-!
# What trimming leaves

Trimming takes off what satisfies a condition at the ends of a list and nothing else. Texts are
trimmed by their blanks, and lists of lines by the lines that are blank or empty.
-/

namespace ProtocolHeaders.Text

/-! ## Both ends of a list -/

section

variable {α : Type} {condition : α -> Bool} {all inner : List α}

/-- A list is what is left of another one when all that satisfies a condition is taken off at
both ends. -/
structure IsTrimmed (condition : α -> Bool) (all inner : List α) : Prop where
  ends : ∃ front back, all = front ++ inner ++ back ∧
    (∀ item ∈ front, condition item = true) ∧ ∀ item ∈ back, condition item = true
  first : ∀ item ∈ inner.head?, condition item = false
  last : ∀ item ∈ inner.getLast?, condition item = false

/-- Trimming adds no items. -/
theorem IsTrimmed.subset (trimmed : IsTrimmed condition all inner) : inner ⊆ all := by
  obtain ⟨front, back, rfl, -, -⟩ := trimmed.ends
  exact fun item member => List.mem_append_left _ (List.mem_append_right _ member)

/-- What is left has no item at its end that is to be cut off. -/
theorem condition_getLast?_rdropWhile {item : α}
    (isLast : item ∈ (all.rdropWhile condition).getLast?) : condition item = false := by
  have notNil : all.rdropWhile condition ≠ [] := by
    intro isNil
    rw [isNil] at isLast
    cases isLast
  rw [List.getLast?_eq_some_getLast notNil] at isLast
  cases isLast
  exact eq_false_of_ne_true (List.rdropWhile_last_not condition all notNil)

/-- Nothing is cut off an end that is to stay. -/
theorem rdropWhile_eq_self (last : ∀ item ∈ inner.getLast?, condition item = false) :
    inner.rdropWhile condition = inner := by
  rw [List.rdropWhile_eq_self_iff]
  intro notNil
  rw [last _ (List.getLast?_eq_some_getLast notNil)]
  exact Bool.false_ne_true

/-- A list is what is left of another one when all that satisfies a condition is taken off at
its end. -/
structure IsTrimmedEnd (condition : α -> Bool) (all inner : List α) : Prop where
  ends : ∃ back, all = inner ++ back ∧ ∀ item ∈ back, condition item = true
  last : ∀ item ∈ inner.getLast?, condition item = false

/-- Cutting at the end alone trims the end. -/
theorem isTrimmedEnd_rdropWhile (condition : α -> Bool) (all : List α) :
    IsTrimmedEnd condition all (all.rdropWhile condition) where
  ends := ⟨all.rtakeWhile condition, List.rdropWhile_append_rtakeWhile.symm,
    fun _ => List.mem_rtakeWhile_imp⟩
  last _ := condition_getLast?_rdropWhile

/-- What is left in front of the end is determined by this. -/
theorem IsTrimmedEnd.eq_rdropWhile (trimmed : IsTrimmedEnd condition all inner) :
    inner = all.rdropWhile condition := by
  obtain ⟨back, rfl, inBack⟩ := trimmed.ends
  have backSatisfies : ∀ item ∈ back.reverse, condition item = true :=
    fun item member => inBack item (List.mem_reverse.mp member)
  rw [List.rdropWhile, List.reverse_append, List.dropWhile_append_of_pos backSatisfies]
  exact (rdropWhile_eq_self trimmed.last).symm

/-- Cutting at the front and then at the end trims. -/
theorem isTrimmed_rdropWhile_dropWhile (condition : α -> Bool) (all : List α) :
    IsTrimmed condition all ((all.dropWhile condition).rdropWhile condition) where
  ends := by
    refine ⟨all.takeWhile condition, (all.dropWhile condition).rtakeWhile condition, ?_,
      fun item => List.mem_takeWhile_imp, fun item => List.mem_rtakeWhile_imp⟩
    rw [List.append_assoc, List.rdropWhile_append_rtakeWhile, List.takeWhile_append_dropWhile]
  first := by
    intro item isFirst
    obtain ⟨cut, parts⟩ := List.rdropWhile_prefix condition (all.dropWhile condition)
    have isHead : (all.dropWhile condition).head? = some item := by
      rw [← parts, List.head?_append, Option.mem_def.mp isFirst, Option.some_or]
    have notCondition := List.head?_dropWhile_not condition all
    rwa [isHead] at notCondition
  last _ := condition_getLast?_rdropWhile

/-- What is left is determined by this. -/
theorem rdropWhile_dropWhile_eq_iff :
    (all.dropWhile condition).rdropWhile condition = inner ↔ IsTrimmed condition all inner := by
  constructor
  · rintro rfl
    exact isTrimmed_rdropWhile_dropWhile condition all
  · rintro ⟨⟨front, back, rfl, inFront, inBack⟩, first, last⟩
    rw [List.append_assoc, List.dropWhile_append_of_pos inFront]
    cases inner with
    | nil =>
        rw [List.nil_append, List.dropWhile_eq_nil_iff.mpr inBack, List.rdropWhile_nil]
    | cons item others =>
        have notFirst : ¬ condition item = true := by
          rw [first item rfl]
          exact Bool.false_ne_true
        have trimmed : IsTrimmedEnd condition (item :: others ++ back) (item :: others) :=
          ⟨⟨back, rfl, inBack⟩, last⟩
        rw [List.cons_append, List.dropWhile_cons_of_neg notFirst, ← List.cons_append,
          ← trimmed.eq_rdropWhile]

/-- Nothing is left exactly if all satisfies the condition. -/
theorem isTrimmed_nil_iff :
    IsTrimmed condition all [] ↔ ∀ item ∈ all, condition item = true := by
  constructor
  · rintro ⟨⟨front, back, rfl, inFront, inBack⟩, -, -⟩ item member
    rw [List.append_nil, List.mem_append] at member
    exact member.elim (inFront item) (inBack item)
  · intro satisfied
    exact ⟨⟨all, [], by simp, satisfied, by simp⟩, nofun, nofun⟩

end

/-! ## Blanks of a text -/

section

variable {text front back inner : List Char} {c : Char}

/-- A text is blank if all its characters are. -/
theorem onlyBlanks_iff : onlyBlanks text = true ↔ ∀ c ∈ text, isBlank c = true := by
  rw [onlyBlanks, List.all_eq_true]

/-- Only a blank text has nothing left without its trailing blanks. -/
theorem trimEnd_eq_nil_iff : trimEnd text = [] ↔ onlyBlanks text = true := by
  rw [onlyBlanks_iff]
  exact List.rdropWhile_eq_nil_iff

/-- No blank is left at the end. -/
theorem isBlank_getLast?_trimEnd (last : c ∈ (trimEnd text).getLast?) : isBlank c = false :=
  condition_getLast?_rdropWhile last

/-- What is left stands at the front of the text. -/
theorem trimEnd_prefix : trimEnd text <+: text :=
  List.rdropWhile_prefix isBlank text

/-- What does not end in a blank is left as it is. -/
theorem trimEnd_eq_self (last : ∀ c ∈ text.getLast?, isBlank c = false) : trimEnd text = text :=
  rdropWhile_eq_self last

/-- Only what stands behind the last character that is not blank is cut off. -/
theorem trimEnd_append (notBlank : onlyBlanks back = false) :
    trimEnd (front ++ back) = front ++ trimEnd back := by
  have someLeft : (back.reverse.dropWhile isBlank).isEmpty = false := by
    simpa [onlyBlanks] using notBlank
  simp [trimEnd, List.dropWhile_append, someLeft]

/-- A text that begins with a visible character keeps it. -/
theorem trimEnd_cons (notBlank : isBlank c = false) (text : List Char) :
    trimEnd (c :: text) = c :: trimEnd text := by
  rw [trimEnd, List.reverse_cons, List.dropWhile_append]
  split
  · rename_i nothingLeft
    simp [trimEnd, List.isEmpty_iff.mp nothingLeft, notBlank]
  · simp [trimEnd]

/-- Blanks in front do not matter. -/
theorem trim_append (blanks : ∀ c ∈ front, isBlank c = true) :
    trim (front ++ back) = trim back := by
  rw [trim, trimStart, List.dropWhile_append_of_pos blanks, trim, trimStart]

/-- Trimming a text leaves the one text that is trimmed from it. -/
theorem trim_eq_iff : trim text = inner ↔ IsTrimmed isBlank text inner :=
  rdropWhile_dropWhile_eq_iff

/-- The only trimmed text of blanks is the empty one. -/
theorem eq_nil_of_onlyBlanks (trimmed : trim text = text) (blanks : onlyBlanks text = true) :
    text = [] := by
  rw [← trimmed, trim_eq_iff, isTrimmed_nil_iff]
  exact onlyBlanks_iff.mp blanks

end

end ProtocolHeaders.Text
