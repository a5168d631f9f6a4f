import ProtocolHeaders.Header.Field
import ProtocolHeaders.Proofs.Union.FinalForm

/-!
# Final forms do not depend on the order of alternatives

If the keys of alternatives differ wherever a type expression has a union, they settle every
place. The expressions that differ only in the order of alternatives, at any depth, then have
one final form, and so they are rendered alike.
-/

namespace ProtocolHeaders.Header

/-- Type expressions that differ only in the order in which unions list their alternatives, and
unions among these theirs. The raw text of such a union may differ as well, since it lists the
alternatives in that order. -/
inductive IsReordered : TypeExpr -> TypeExpr -> Prop where
  | same (type : TypeExpr) : IsReordered type type
  | alternatives {type : TypeExpr} {value : String} {reordered items : List TypeExpr}
      (hasAlternatives : type.HasAlternatives)
      (each : List.Forall₂ IsReordered type.items reordered)
      (permuted : reordered.Perm items) :
      IsReordered type { type with value, items }

/-- A type expression and what is among the alternatives of unions that it reaches. -/
inductive Reaches : TypeExpr -> TypeExpr -> Prop where
  | self (type : TypeExpr) : Reaches type type
  | alternative {type item inner : TypeExpr} (isUnion : type.kind = .union)
      (member : item ∈ type.items) (reaches : Reaches item inner) : Reaches type inner

/-- Wherever a type expression reaches a union, no two of its alternatives are level. -/
def HasDistinctKeys (index : UnionIndex) (type : TypeExpr) : Prop :=
  ∀ inner, Reaches type inner -> inner.kind = .union ->
    inner.items.Pairwise fun left right => ¬ (index.keyOf left).IsLevelWith (index.keyOf right)

section

variable {index : UnionIndex} {type : TypeExpr}

theorem hasDistinctKeys_of_kind_ne_union (noUnion : type.kind ≠ .union) :
    HasDistinctKeys index type := by
  rintro inner (_ | ⟨isUnion, -, -⟩) innerIsUnion
  · exact absurd innerIsUnion noUnion
  · exact absurd isUnion noUnion

/-- A union has distinct keys if its alternatives have, each by itself and with each other. -/
theorem hasDistinctKeys_iff_of_kind_eq_union (isUnion : type.kind = .union) :
    HasDistinctKeys index type ↔
      (type.items.Pairwise fun left right =>
          ¬ (index.keyOf left).IsLevelWith (index.keyOf right)) ∧
        ∀ item ∈ type.items, HasDistinctKeys index item := by
  constructor
  · intro distinct
    refine ⟨distinct type (.self type) isUnion, fun item member inner reaches => ?_⟩
    exact distinct inner (.alternative isUnion member reaches)
  · rintro ⟨distinct, each⟩ inner (_ | ⟨-, member, reaches⟩) innerIsUnion
    · exact distinct
    · exact each _ member inner reaches innerIsUnion

/-- Reordering does not change the final form where keys are distinct. -/
theorem materialize_eq_of_isReordered {other : TypeExpr} (reordered : IsReordered type other)
    (distinct : HasDistinctKeys index type) :
    index.materialize type = index.materialize other := by
  induction type using TypeExpr.induction_items generalizing other with
  | step type inductionHypothesis =>
      cases reordered with
      | same => rfl
      | @alternatives _ value reordered items hasAlternatives each permuted =>
          obtain ⟨isUnion, someItem⟩ := hasAlternatives
          obtain ⟨distinctItems, distinctBelow⟩ :=
            (hasDistinctKeys_iff_of_kind_eq_union isUnion).mp distinct
          have sameFinals : type.items.map index.materialize =
              reordered.map index.materialize :=
            UnionIndex.map_eq_map_of_forall₂ each fun item member _ isReordered =>
              inductionHypothesis item member isReordered (distinctBelow item member)
          have finalsPermuted : (type.items.map index.materialize).Perm
              (items.map index.materialize) :=
            sameFinals ▸ permuted.map index.materialize
          have sameOrder : index.sortAlternatives (type.items.map index.materialize) =
              index.sortAlternatives (items.map index.materialize) := by
            refine UnionIndex.sortAlternatives_of_perm finalsPermuted ?_
            rw [List.pairwise_map]
            simpa only [UnionIndex.keyOf_materialize] using distinctItems
          have otherHas : TypeExpr.HasAlternatives { type with value, items } := by
            refine ⟨isUnion, fun none => someItem ?_⟩
            subst none
            exact List.map_eq_nil_iff.mp finalsPermuted.eq_nil
          rw [UnionIndex.materialize_of_hasAlternatives ⟨isUnion, someItem⟩,
            UnionIndex.materialize_of_hasAlternatives otherHas, sameOrder]

end

/-- Type expressions that differ only in the order of alternatives have one final form if the
keys of the alternatives differ wherever they are ordered, so properties of these types become
the same fields. -/
theorem reordered_alternatives_render_alike (index : UnionIndex) (first second : TypeExpr)
    (reordered : IsReordered first second) (distinct : HasDistinctKeys index first) :
    index.materialize first = index.materialize second ∧
      ∀ enclosing (property : Property),
        fieldOf index enclosing { property with type := first } =
          fieldOf index enclosing { property with type := second } := by
  have sameFinal := materialize_eq_of_isReordered reordered distinct
  refine ⟨sameFinal, fun enclosing property => ?_⟩
  simp only [fieldOf, materializeProperty, sameFinal]

/-- A model with an alias that is deprecated and an interface with a version. -/
def datedModel : Model :=
  { aliases := [{ name := "MarkedString", type := .base "std::string", deprecated := some "" }]
    interfaces := [{ name := "MarkupContent", since := some "3.3.0" }] }

/-- A flag that came late. -/
def flag : TypeExpr :=
  (TypeExpr.base "bool").withSince "v3.17"

/-- A union of the entities of the dated model and of another union, each in disorder, has the
final form of one in which both are in another disorder. -/
theorem nested_alternatives_render_alike :
    let index := UnionIndex.ofModel datedModel
    let first := TypeExpr.union
      [.reference "MarkedString", .reference "MarkupContent", .union [flag, .base "int"]]
    let second := TypeExpr.union
      [.union [.base "int", flag], .reference "MarkedString", .reference "MarkupContent"]
    IsReordered first second ∧ HasDistinctKeys index first ∧
      index.materialize first = index.materialize second := by
  intro index first second
  have scalars : IsReordered (.union [flag, .base "int"]) (.union [.base "int", flag]) :=
    .alternatives (by decide) (List.forall₂_same.mpr fun item _ => .same item) (.swap _ _ [])
  have reordered : IsReordered first second := by
    refine .alternatives (by decide) (.cons (.same _) (.cons (.same _) (.cons scalars .nil))) ?_
    exact List.perm_append_singleton _ [_, _]
  have leaf : ∀ item ∈ [TypeExpr.reference "MarkedString", .reference "MarkupContent", flag,
      .base "int"], HasDistinctKeys index item :=
    fun item member => hasDistinctKeys_of_kind_ne_union (by revert item; decide)
  have distinct : HasDistinctKeys index first := by
    refine (hasDistinctKeys_iff_of_kind_eq_union rfl).mpr ⟨by decide +kernel, ?_⟩
    intro item member
    obtain rfl | rfl | rfl : item = .reference "MarkedString" ∨
        item = .reference "MarkupContent" ∨ item = .union [flag, .base "int"] := by
      simpa [first, TypeExpr.union] using member
    · exact leaf _ (by simp)
    · exact leaf _ (by simp)
    · refine (hasDistinctKeys_iff_of_kind_eq_union rfl).mpr ⟨by decide +kernel, ?_⟩
      exact fun item member => leaf item (List.mem_cons_of_mem _ (List.mem_cons_of_mem _ member))
  exact ⟨reordered, distinct,
    (reordered_alternatives_render_alike index first second reordered distinct).1⟩

end ProtocolHeaders.Header
