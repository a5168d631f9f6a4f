/-!
# Tables of character ranges

A property of characters is held as a sorted list of code point ranges, both
ends included. `inRanges` is membership in such a table.
-/

namespace ProtocolHeaders.Text

/-- A character whose code point lies in one of the ranges, both ends included. -/
def inRanges (ranges : List (Nat × Nat)) (c : Char) : Bool :=
  ranges.any fun range => range.1 <= c.toNat && c.toNat <= range.2

theorem inRanges_iff {ranges : List (Nat × Nat)} {c : Char} :
    inRanges ranges c = true ↔
      ∃ range ∈ ranges, range.1 ≤ c.toNat ∧ c.toNat ≤ range.2 := by
  simp [inRanges]

end ProtocolHeaders.Text
