import ProtocolHeaders.Text.Blank
import ProtocolHeaders.Text.DecimalDigit

/-!
# Numbers in the digits of any script

The digits of a script have the values from zero to nine in the order of the script, so a group
of decimal digits stands for a number, whatever script it is written in. Of these digits only
the ASCII ones are read. No digit is a blank.
-/

namespace ProtocolHeaders.Text

/-- The ranges of the blank characters. -/
def blankRanges : List (Nat × Nat) := [
  (0x9, 0xD), (0x20, 0x20), (0x85, 0x85), (0xA0, 0xA0), (0x1680, 0x1680), (0x2000, 0x200A),
  (0x2028, 0x2029), (0x202F, 0x202F), (0x205F, 0x205F), (0x3000, 0x3000)]

/-- Blanks are told by their ranges. -/
theorem inRanges_of_isBlank {c : Char} (blank : isBlank c = true) :
    inRanges blankRanges c = true := by
  simp only [isBlank, Bool.or_eq_true, Bool.and_eq_true, decide_eq_true_eq, beq_iff_eq] at blank
  simp only [inRanges_iff, blankRanges, List.mem_cons, List.not_mem_nil, or_false,
    exists_eq_or_imp, exists_eq_left]
  omega

/-- The codes of the ASCII digits are in one range. -/
theorem toNat_of_isDigit {c : Char} (digit : c.isDigit = true) :
    0x30 ≤ c.toNat ∧ c.toNat ≤ 0x39 := by
  simp only [Char.isDigit, Bool.and_eq_true, decide_eq_true_eq] at digit
  exact digit

/-- The ASCII digits are the first of the decimal digits. -/
theorem inRanges_of_isDecimalDigit {c : Char} (digit : isDecimalDigit c = true) :
    inRanges decimalDigitRanges c = true := by
  rw [isDecimalDigit, Bool.or_eq_true] at digit
  rcases digit with ascii | listed
  · rw [inRanges_iff]
    exact ⟨(0x30, 0x39), List.mem_cons_self, toNat_of_isDigit ascii⟩
  · exact listed

/-- No blank is a digit. -/
theorem isDecimalDigit_eq_false_of_isBlank {c : Char} (blank : isBlank c = true) :
    isDecimalDigit c = false := by
  have apart : ∀ digits ∈ decimalDigitRanges, ∀ blanks ∈ blankRanges,
      digits.2 < blanks.1 ∨ blanks.2 < digits.1 := by decide
  rw [Bool.eq_false_iff]
  intro digit
  obtain ⟨digits, isRange, fromFirst, toLast⟩ := inRanges_iff.mp (inRanges_of_isDecimalDigit digit)
  obtain ⟨blanks, isRange', fromFirst', toLast'⟩ := inRanges_iff.mp (inRanges_of_isBlank blank)
  have := apart digits isRange blanks isRange'
  omega

/-- The value of a decimal digit. The digits of a script follow each other from zero to nine. -/
def decimalValue (c : Char) : Nat :=
  match decimalDigitRanges.find? fun range => range.1 <= c.toNat && c.toNat <= range.2 with
  | some range => (c.toNat - range.1) % 10
  | none => 0

/-- The number that digits continue. -/
def numberFrom (value : Nat) (digits : List Char) : Nat :=
  digits.foldl (fun value c => 10 * value + decimalValue c) value

/-- The number that digits are written for. -/
def number (digits : List Char) : Nat :=
  numberFrom 0 digits

-- Three scripts write the same number.
example : [['0', '4', '2'], ['\u0664', '\u0662'], ['\uff14', '\uff12']].map number =
    [42, 42, 42] := by decide

/-- An ASCII digit has its value in the decimal system. -/
theorem digitValue?_of_isDigit {c : Char} (digit : c.isDigit = true) :
    digitValue? c = some (decimalValue c) := by
  have bounds := toNat_of_isDigit digit
  have found : decimalDigitRanges.find? (fun range => range.1 <= c.toNat && c.toNat <= range.2) =
      some (0x30, 0x39) := List.find?_cons_of_pos (by simpa using bounds)
  rw [digitValue?, if_pos digit, decimalValue, found]
  change some (c.toNat - 0x30) = some ((c.toNat - 0x30) % 10)
  rw [Nat.mod_eq_of_lt (by omega)]

/-- Further digits never make a number smaller. -/
theorem le_numberFrom (value : Nat) (digits : List Char) : value ≤ numberFrom value digits := by
  induction digits generalizing value with
  | nil => exact Nat.le_refl value
  | cons c others inductionHypothesis =>
      have := inductionHypothesis (10 * value + decimalValue c)
      rw [numberFrom, List.foldl_cons, ← numberFrom]
      omega

end ProtocolHeaders.Text
