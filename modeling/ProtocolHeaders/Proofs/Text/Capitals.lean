import ProtocolHeaders.Text.Uppercase

/-!
# Capitals stay as they are

The upper case of a character begins with a character that is its own upper case, also where
it is more than one character. So a text that begins with a capital stays the same when its
first character is put in upper case again.

That is a fact about the table of upper cases as a whole. It is checked once for all of it: the
characters that the table changes make up one set, the characters that it puts first another
one, and the two have no member in common. As sets of bits, they are compared in one operation.
-/

namespace ProtocolHeaders.Text

/-! ## Sets of bits -/

/-- The number whose binary figures say which numbers a list holds. -/
def bits (codes : List Nat) : Nat :=
  codes.foldr (fun code others => 1 <<< code ||| others) 0

theorem testBit_bits (codes : List Nat) (code : Nat) :
    (bits codes).testBit code = true ↔ code ∈ codes := by
  induction codes with
  | nil => simp [bits]
  | cons first others inductionHypothesis =>
      have step : bits (first :: others) = 1 <<< first ||| bits others := rfl
      rw [step, Nat.one_shiftLeft, Nat.testBit_or, Bool.or_eq_true, inductionHypothesis,
        Nat.testBit_two_pow, decide_eq_true_iff, List.mem_cons, eq_comm]

/-- Lists whose bits do not meet have no member in common. -/
theorem notMem_of_bits_and_eq_zero {first second : List Nat}
    (apart : bits first &&& bits second = 0) {code : Nat} (member : code ∈ first) :
    code ∉ second := by
  intro again
  have bit := Nat.testBit_and (bits first) (bits second) code
  rw [apart, Nat.zero_testBit, (testBit_bits first code).mpr member,
    (testBit_bits second code).mpr again] at bit
  cases bit

/-! ## The table -/

/-- The codes in a run of characters. -/
def runCodes : Nat × Nat × Nat × Nat -> List Nat
  | (first, last, step, _) => List.range' first ((last - first) / step + 1) step

/-- The codes of the upper cases that a run gives its characters. -/
def runTargets : Nat × Nat × Nat × Nat -> List Nat
  | (first, last, step, target) =>
      (runCodes (first, last, step, target)).map fun code => target + (code - first)

/-- The codes of the characters that the table changes. -/
def changedCodes : List Nat :=
  uppercaseExpansions.map Prod.fst ++ uppercaseRuns.flatMap runCodes

/-- The codes of the characters with which the upper cases in the table begin. -/
def capitalCodes : List Nat :=
  uppercaseExpansions.filterMap (fun entry => entry.2.head?) ++ uppercaseRuns.flatMap runTargets

/-- No upper case begins with a character that has another upper case. -/
theorem capitals_are_apart : bits capitalCodes &&& bits changedCodes = 0 := by
  decide +kernel

/-- The upper cases begin with characters. -/
theorem capitals_are_valid : (capitalCodes.all fun code => decide code.isValidChar) = true := by
  decide +kernel

/-- Each expansion has a first character. -/
theorem expansions_are_proper : (uppercaseExpansions.all fun entry => !entry.2.isEmpty) = true := by
  decide +kernel

/-! ## Upper cases -/

/-- A code is in a run if it is as far from the first as one of the steps. -/
theorem mem_runCodes {first last step target code : Nat}
    (inRun : (first <= code && code <= last && (code - first) % step == 0) = true) :
    code ∈ runCodes (first, last, step, target) := by
  simp only [Bool.and_eq_true, decide_eq_true_eq, beq_iff_eq] at inRun
  obtain ⟨⟨notBefore, notBehind⟩, divides⟩ := inRun
  have reached : step * ((code - first) / step) = code - first :=
    Nat.mul_div_cancel' (Nat.dvd_of_mod_eq_zero divides)
  have inTime : (code - first) / step ≤ (last - first) / step :=
    Nat.div_le_div_right (by omega)
  rw [runCodes, List.mem_range']
  exact ⟨(code - first) / step, by omega, by omega⟩

/-- A character that the table does not change is its own upper case. -/
theorem uppercase_of_unchanged {c : Char} (unchanged : c.toNat ∉ changedCodes) :
    uppercase c = [c] := by
  rw [changedCodes, List.mem_append, not_or] at unchanged
  obtain ⟨notExpanded, notInRun⟩ := unchanged
  have noExpansion : (uppercaseExpansions.find? fun entry => entry.1 == c.toNat) = none := by
    refine List.find?_eq_none.mpr fun entry member found => notExpanded ?_
    rw [← beq_iff_eq.mp found]
    exact List.mem_map_of_mem member
  have noRun : (uppercaseRuns.find? fun (first, last, step, _) =>
      first <= c.toNat && c.toNat <= last && (c.toNat - first) % step == 0) = none := by
    refine List.find?_eq_none.mpr fun run member found => notInRun ?_
    exact List.mem_flatMap.mpr ⟨run, member, mem_runCodes found⟩
  rw [uppercase, noExpansion, noRun]

/-- The first character of an upper case in the table is its own upper case. -/
theorem uppercase_capital {code : Nat} (isCapital : code ∈ capitalCodes) :
    uppercase (Char.ofNat code) = [Char.ofNat code] := by
  have valid : code.isValidChar :=
    of_decide_eq_true (List.all_eq_true.mp capitals_are_valid code isCapital)
  have sameCode : (Char.ofNat code).toNat = code := by
    rw [Char.ofNat, dif_pos valid]
    rfl
  refine uppercase_of_unchanged ?_
  rw [sameCode]
  exact notMem_of_bits_and_eq_zero capitals_are_apart isCapital

/-- The upper case of a character begins with a character that is its own upper case. -/
theorem exists_uppercase_eq_cons (c : Char) :
    ∃ first others, uppercase c = first :: others ∧ uppercase first = [first] := by
  rw [uppercase]
  split
  · rename_i expansion found
    have member := List.mem_of_find?_eq_some found
    have proper := List.all_eq_true.mp expansions_are_proper _ member
    cases expansion with
    | nil => cases proper
    | cons code others =>
        refine ⟨_, _, List.map_cons, uppercase_capital (List.mem_append_left _ ?_)⟩
        exact List.mem_filterMap.mpr ⟨_, member, rfl⟩
  · rename_i noExpansion
    split
    · rename_i first last step target found
      refine ⟨_, _, rfl, uppercase_capital (List.mem_append_right _ ?_)⟩
      have member := List.mem_of_find?_eq_some found
      have inRun := List.find?_some found
      exact List.mem_flatMap.mpr ⟨_, member, List.mem_map_of_mem (mem_runCodes inRun)⟩
    · rename_i noRun
      refine ⟨c, [], rfl, ?_⟩
      rw [uppercase, noExpansion, noRun]

theorem capitalizeChars_capitalizeChars (text : List Char) :
    capitalizeChars (capitalizeChars text) = capitalizeChars text := by
  cases text with
  | nil => rfl
  | cons c others =>
      obtain ⟨first, behind, upper, settled⟩ := exists_uppercase_eq_cons c
      rw [capitalizeChars, upper, List.cons_append, capitalizeChars, settled,
        List.singleton_append]

/-- A text that begins with a capital stays as it is. -/
theorem capitalize_capitalize (text : String) :
    capitalize (capitalize text) = capitalize text := by
  rw [capitalize, capitalize, String.toList_ofList, capitalizeChars_capitalizeChars]

end ProtocolHeaders.Text
