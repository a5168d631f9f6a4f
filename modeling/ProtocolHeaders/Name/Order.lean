/-!
# The order of names

Names are compared character by character, by code point. The facts here are
what ordered sets and tables of names need.
-/

namespace ProtocolHeaders.Name

theorem lt_of_not_lt_of_ne {a b : String} (notBelow : ¬ a < b) (differ : a ≠ b) : b < a := by
  rcases String.le_total a b with below | above
  · exact absurd (String.le_antisymm below (String.not_lt.mp notBelow)) differ
  · exact Decidable.byContradiction fun notAbove =>
      differ (String.le_antisymm (String.not_lt.mp notAbove) above)

end ProtocolHeaders.Name
