import ProtocolHeaders.Version

/-!
# The order of versions

Versions are compared by their numbers, and the first number in which two of them differ
decides. The tags that the numbers were read off have no part in it, so different versions may
stand on one level, and the order is a total preorder only.
-/

namespace ProtocolHeaders.Version

/-- The numbers of a version come before those of another one. -/
def IsBefore (left right : Version) : Prop :=
  left.major < right.major ∨ (left.major = right.major ∧
    (left.minor < right.minor ∨ (left.minor = right.minor ∧ left.patch < right.patch)))

instance (left right : Version) : Decidable (left.IsBefore right) :=
  inferInstanceAs (Decidable (_ ∨ _))

variable {first second third : Version}

/-- Comparing tells when the second version comes before the first. -/
theorem compare_eq_gt_iff : first.compare second = .gt ↔ second.IsBefore first := by
  simp only [compare, IsBefore, Ordering.then_eq_gt, Nat.compare_eq_gt, Nat.compare_eq_eq]
  omega

/-- No two versions come before each other. -/
theorem not_isBefore_of_isBefore (before : first.IsBefore second) : ¬ second.IsBefore first := by
  simp only [IsBefore] at before ⊢
  omega

/-- What does not come after what does not come after a version does not come after that version. -/
theorem not_isBefore_trans (atMost : ¬ second.IsBefore first) (atMost' : ¬ third.IsBefore second) :
    ¬ third.IsBefore first := by
  simp only [IsBefore] at atMost atMost' ⊢
  omega

end ProtocolHeaders.Version
