import Mathlib.Data.List.Pairwise
import ProtocolHeaders.Header.Union
import ProtocolHeaders.Proofs.Version.Order

/-!
# The arrangement of alternatives

Alternatives are arranged by their keys: what is not deprecated comes before what is, what has
no version before what has one, and early versions before late ones. Alternatives whose keys
are level keep the order in which they are given. There is only one such arrangement, and
sorting finds it.
-/

namespace ProtocolHeaders.Header

namespace UnionKey

/-- The key that dates give. Any message of deprecation marks as deprecated, and a tag counts if
it is a version. -/
def ofDates (since deprecated : Option String) : UnionKey :=
  { deprecated := deprecated.isSome
    since? := since.bind fun tag => (Version.parse tag).toOption }

/-- The key of an entity or of a type expression by itself is that of its dates. -/
theorem of_eq_ofDates {α : Type} [Dated α] (entity : α) :
    of entity = ofDates (Dated.since entity) (Dated.deprecated entity) :=
  rfl

/-- No version comes before any version. -/
def IsBeforeSince : (left right : Option Version) -> Prop
  | none, some _ => True
  | some left, some right => left.IsBefore right
  | _, none => False

/-- A key comes before another one. -/
def IsBefore (left right : UnionKey) : Prop :=
  (left.deprecated = false ∧ right.deprecated = true) ∨
    (left.deprecated = right.deprecated ∧ IsBeforeSince left.since? right.since?)

/-- Neither key comes before the other. -/
def IsLevelWith (left right : UnionKey) : Prop :=
  ¬ left.IsBefore right ∧ ¬ right.IsBefore left

instance (left right : Option Version) : Decidable (IsBeforeSince left right) :=
  match left, right with
  | none, some _ => inferInstanceAs (Decidable True)
  | some left, some right => inferInstanceAs (Decidable (left.IsBefore right))
  | none, none => inferInstanceAs (Decidable False)
  | some _, none => inferInstanceAs (Decidable False)

instance (left right : UnionKey) : Decidable (left.IsBefore right) :=
  inferInstanceAs (Decidable (_ ∨ _))

instance (left right : UnionKey) : Decidable (left.IsLevelWith right) :=
  inferInstanceAs (Decidable (_ ∧ _))

/-- Comparing tells when the second version comes before the first. -/
theorem compareSince_eq_gt_iff {left right : Option Version} :
    compareSince left right = .gt ↔ IsBeforeSince right left := by
  cases left <;> cases right <;> simp [compareSince, IsBeforeSince, Version.compare_eq_gt_iff]

/-- No two versions come before each other, one that is missing included. -/
theorem not_isBeforeSince_of_isBeforeSince {left right : Option Version}
    (before : IsBeforeSince left right) : ¬ IsBeforeSince right left := by
  cases left <;> cases right
  case some.some => exact Version.not_isBefore_of_isBefore before
  all_goals simp_all [IsBeforeSince]

/-- Coming no later than one another is transitive, missing versions included. -/
theorem not_isBeforeSince_trans {first second third : Option Version}
    (atMost : ¬ IsBeforeSince second first) (atMost' : ¬ IsBeforeSince third second) :
    ¬ IsBeforeSince third first := by
  cases first <;> cases second <;> cases third
  case some.some.some => exact Version.not_isBefore_trans atMost atMost'
  all_goals simp_all [IsBeforeSince]

variable {first second third : UnionKey}

/-- Comparing tells which of two keys comes first. -/
theorem compare_eq_gt_iff : first.compare second = .gt ↔ second.IsBefore first := by
  obtain ⟨deprecated, since?⟩ := first
  obtain ⟨deprecated', since?'⟩ := second
  rw [compare, Ordering.then_eq_gt, compareSince_eq_gt_iff, IsBefore]
  cases deprecated <;> cases deprecated' <;> simp +decide

/-- No two keys come before each other. -/
theorem not_isBefore_of_isBefore (before : first.IsBefore second) :
    ¬ second.IsBefore first := by
  rintro (⟨current, deprecated⟩ | ⟨same, beforeSince⟩)
  · simp [IsBefore, current, deprecated] at before
  · rcases before with ⟨current, deprecated⟩ | ⟨-, before⟩
    · rw [current, deprecated] at same
      cases same
    · exact not_isBeforeSince_of_isBeforeSince before beforeSince

/-- What does not come after what does not come after a key does not come after that key. -/
theorem not_isBefore_trans (atMost : ¬ second.IsBefore first)
    (atMost' : ¬ third.IsBefore second) : ¬ third.IsBefore first := by
  obtain ⟨deprecated, since?⟩ := first
  obtain ⟨deprecated', since?'⟩ := second
  obtain ⟨deprecated'', since?''⟩ := third
  have sinceTrans := @not_isBeforeSince_trans since? since?' since?''
  cases deprecated <;> cases deprecated' <;> cases deprecated'' <;> simp_all [IsBefore]

/-- No key comes before itself. -/
theorem not_isBefore_self (key : UnionKey) : ¬ key.IsBefore key :=
  fun before => not_isBefore_of_isBefore before before

/-- Two keys are level with each other. -/
theorem IsLevelWith.symm (level : first.IsLevelWith second) : second.IsLevelWith first :=
  ⟨level.2, level.1⟩

/-- Keys that are level with one key are level with each other. -/
theorem IsLevelWith.trans (level : first.IsLevelWith second) (level' : second.IsLevelWith third) :
    first.IsLevelWith third :=
  ⟨not_isBefore_trans level'.1 level.1, not_isBefore_trans level.2 level'.2⟩

end UnionKey

/-! ## Arrangements -/

/-- Alternatives are arranged by their keys, and those on one level as they were given. -/
structure Arranges (index : UnionIndex) (alternatives arranged : List TypeExpr) : Prop where
  perm : arranged.Perm alternatives
  ascending : arranged.Pairwise fun left right =>
    ¬ (index.keyOf right).IsBefore (index.keyOf left)
  stable : ∀ key : UnionKey,
    arranged.filter (fun type => (index.keyOf type).IsLevelWith key) =
      alternatives.filter fun type => (index.keyOf type).IsLevelWith key

namespace UnionIndex

variable {index : UnionIndex}

/-- Whether two alternatives may stand in this order. -/
def inOrder (index : UnionIndex) (left right : TypeExpr) : Bool :=
  (index.keyOf left).compare (index.keyOf right) != .gt

/-- Alternatives are in order unless the second one has to come first. -/
theorem inOrder_iff {left right : TypeExpr} :
    index.inOrder left right = true ↔ ¬ (index.keyOf right).IsBefore (index.keyOf left) := by
  rw [inOrder, bne_iff_ne, ne_eq, UnionKey.compare_eq_gt_iff]

/-- The order of alternatives is transitive. -/
theorem inOrder_trans (first second third : TypeExpr) (isFirst : index.inOrder first second = true)
    (isSecond : index.inOrder second third = true) : index.inOrder first third = true :=
  inOrder_iff.mpr (UnionKey.not_isBefore_trans (inOrder_iff.mp isFirst) (inOrder_iff.mp isSecond))

/-- Any two alternatives are in order one way or the other. -/
theorem inOrder_total (left right : TypeExpr) :
    (index.inOrder left right || index.inOrder right left) = true := by
  rw [Bool.or_eq_true, inOrder_iff, inOrder_iff, ← not_and_or]
  exact fun ⟨before, after⟩ => UnionKey.not_isBefore_of_isBefore before after

/-- Sorting arranges alternatives. -/
theorem arranges_sortAlternatives (index : UnionIndex) (alternatives : List TypeExpr) :
    Arranges index alternatives (index.sortAlternatives alternatives) where
  perm := List.mergeSort_perm _ _
  ascending := (List.pairwise_mergeSort inOrder_trans inOrder_total alternatives).imp inOrder_iff.mp
  stable key := by
    let isLevel := fun type => decide ((index.keyOf type).IsLevelWith key)
    have sorted : (alternatives.filter isLevel).Pairwise fun left right =>
        index.inOrder left right = true := by
      refine List.pairwise_filter.mpr (List.pairwise_of_forall fun left right => ?_)
      intro leftLevel rightLevel
      exact inOrder_iff.mpr
        ((of_decide_eq_true leftLevel).trans (of_decide_eq_true rightLevel).symm).2
    have kept : (alternatives.filter isLevel).Sublist
        ((index.sortAlternatives alternatives).filter isLevel) := by
      have sublist := (List.sublist_mergeSort inOrder_trans inOrder_total sorted
        List.filter_sublist).filter isLevel
      simp only [List.filter_filter, Bool.and_self] at sublist
      exact sublist
    exact (kept.eq_of_length ((List.mergeSort_perm _ _).filter _).length_eq.symm).symm

/-- Lists in ascending order with the same members on every level, in one order, are equal. -/
theorem eq_of_sameLevels {first second : List TypeExpr} (permuted : first.Perm second)
    (ascending : first.Pairwise fun left right =>
      ¬ (index.keyOf right).IsBefore (index.keyOf left))
    (ascending' : second.Pairwise fun left right =>
      ¬ (index.keyOf right).IsBefore (index.keyOf left))
    (sameLevels : ∀ key : UnionKey,
      first.filter (fun type => (index.keyOf type).IsLevelWith key) =
        second.filter fun type => (index.keyOf type).IsLevelWith key) :
    first = second := by
  induction first generalizing second with
  | nil => exact permuted.nil_eq
  | cons item others inductionHypothesis =>
      cases second with
      | nil => exact permuted.eq_nil
      | cons item' others' =>
          have notAfter : ¬ (index.keyOf item').IsBefore (index.keyOf item) := by
            rcases List.mem_cons.mp (permuted.symm.subset List.mem_cons_self) with rfl | member
            · exact UnionKey.not_isBefore_self _
            · exact (List.pairwise_cons.mp ascending).1 item' member
          have notBefore : ¬ (index.keyOf item).IsBefore (index.keyOf item') := by
            rcases List.mem_cons.mp (permuted.subset List.mem_cons_self) with rfl | member
            · exact UnionKey.not_isBefore_self _
            · exact (List.pairwise_cons.mp ascending').1 item member
          have sameHead := sameLevels (index.keyOf item)
          have level : (index.keyOf item).IsLevelWith (index.keyOf item) :=
            ⟨UnionKey.not_isBefore_self _, UnionKey.not_isBefore_self _⟩
          have level' : (index.keyOf item').IsLevelWith (index.keyOf item) :=
            ⟨notAfter, notBefore⟩
          rw [List.filter_cons_of_pos (by simpa using level),
            List.filter_cons_of_pos (by simpa using level')] at sameHead
          obtain ⟨rfl, -⟩ := List.cons.inj sameHead
          refine congrArg (item :: ·) (inductionHypothesis permuted.cons_inv
            (List.pairwise_cons.mp ascending).2 (List.pairwise_cons.mp ascending').2 ?_)
          intro key
          have same := sameLevels key
          rw [List.filter_cons, List.filter_cons] at same
          split at same
          · exact (List.cons.inj same).2
          · exact same

/-- What stands in ascending order stays where it is. -/
theorem sortAlternatives_of_ascending {arranged : List TypeExpr}
    (ascending : arranged.Pairwise fun left right =>
      ¬ (index.keyOf right).IsBefore (index.keyOf left)) :
    index.sortAlternatives arranged = arranged :=
  List.mergeSort_of_pairwise (ascending.imp inOrder_iff.mpr)

/-- There is only one arrangement. -/
theorem eq_sortAlternatives_of_arranges {alternatives arranged : List TypeExpr}
    (arranges : Arranges index alternatives arranged) :
    arranged = index.sortAlternatives alternatives := by
  have sorted := index.arranges_sortAlternatives alternatives
  exact eq_of_sameLevels (arranges.perm.trans sorted.perm.symm) arranges.ascending
    sorted.ascending fun key => (arranges.stable key).trans (sorted.stable key).symm

/-- If no two alternatives are level, their places do not depend on those that they were given
in. -/
theorem sortAlternatives_of_perm {first second : List TypeExpr} (permuted : first.Perm second)
    (distinct : first.Pairwise fun left right =>
      ¬ (index.keyOf left).IsLevelWith (index.keyOf right)) :
    index.sortAlternatives first = index.sortAlternatives second := by
  have sorted := index.arranges_sortAlternatives first
  have sorted' := index.arranges_sortAlternatives second
  have symmetric : Std.Symm fun left right =>
      ¬ (index.keyOf left).IsLevelWith (index.keyOf right) :=
    ⟨fun _ _ differ level => differ level.symm⟩
  refine List.Perm.eq_of_pairwise ?_ sorted.ascending sorted'.ascending
    (sorted.perm.trans (permuted.trans sorted'.perm.symm))
  intro left right isLeft isRight notAfter notBefore
  by_contra differ
  exact distinct.forall (sorted.perm.subset isLeft)
    (permuted.symm.subset (sorted'.perm.subset isRight)) differ ⟨notBefore, notAfter⟩

end UnionIndex

end ProtocolHeaders.Header
