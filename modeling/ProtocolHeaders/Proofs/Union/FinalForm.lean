import Mathlib.Data.List.Forall2
import ProtocolHeaders.Proofs.Union.Keys

/-!
# The final forms of type expressions

Only a union with alternatives has a final form of its own. Its alternatives take theirs and
are arranged by their keys, and its text becomes the variant over their texts. Neither the
kind nor the dates of an expression change on the way, nor does its key, so an expression that
is in its final form already stays as it is.
-/

namespace ProtocolHeaders

namespace TypeExpr

/-- What holds of a type expression whenever it holds of its items holds of all. -/
@[elab_as_elim]
theorem induction_items {motive : TypeExpr -> Prop}
    (step : ∀ type : TypeExpr, (∀ item ∈ type.items, motive item) -> motive type)
    (type : TypeExpr) : motive type :=
  step type fun item _ => induction_items step item
termination_by type
decreasing_by
  cases type with
  | mk kind value items since deprecated =>
      have smaller := List.sizeOf_lt_of_mem ‹item ∈ items›
      simp only [TypeExpr.mk.sizeOf_spec]
      omega

/-- A union with at least one alternative. -/
def HasAlternatives (type : TypeExpr) : Prop :=
  type.kind = .union ∧ type.items ≠ []

instance (type : TypeExpr) : Decidable type.HasAlternatives :=
  inferInstanceAs (Decidable (_ ∧ _))

end TypeExpr

namespace Header

/-- The final form of a type expression. -/
inductive IsFinalForm (index : UnionIndex) : TypeExpr -> TypeExpr -> Prop where
  /-- What has no alternatives is in its final form, and so is everything below it. -/
  | unchanged {type : TypeExpr} (noAlternatives : ¬ type.HasAlternatives) :
      IsFinalForm index type type
  /-- Alternatives take their final forms and their places, and the text lists theirs. -/
  | variant {type : TypeExpr} {finals arranged : List TypeExpr}
      (hasAlternatives : type.HasAlternatives)
      (forms : List.Forall₂ (IsFinalForm index) type.items finals)
      (arranges : Arranges index finals arranged) :
      IsFinalForm index type
        { type with
          value := "std::variant<" ++ String.intercalate ", " (arranged.map TypeExpr.value) ++ ">"
          items := arranged }

/-- The key of the first entity with a name, by its dates: enumerations come first, then aliases,
then interfaces. -/
def entityKey? (model : Model) (name : String) : Option UnionKey :=
  ((model.enumerations.find? (·.name == name)).map fun entity =>
      .ofDates entity.since entity.deprecated).or
    (((model.aliases.find? (·.name == name)).map fun entity =>
        .ofDates entity.since entity.deprecated).or
      ((model.interfaces.find? (·.name == name)).map fun entity =>
        .ofDates entity.since entity.deprecated))

/-- The key that a type expression is judged by: that of what it refers to, if this is known, and
otherwise its own. -/
def judgedBy (known? : Option UnionKey) (type : TypeExpr) : UnionKey :=
  if type.kind = .reference then known?.getD (.ofDates type.since type.deprecated)
  else .ofDates type.since type.deprecated

namespace UnionIndex

variable (index : UnionIndex)

/-! ## Materializing -/

/-- Type expressions take their final forms one by one. -/
theorem materializeAll_eq_map (types : List TypeExpr) :
    index.materializeAll types = types.map index.materialize := by
  induction types with
  | nil => rfl
  | cons type others inductionHypothesis =>
      rw [materializeAll, inductionHypothesis, List.map_cons]

variable {index}

/-- What is no union with alternatives stays as it is. -/
theorem materialize_of_not_hasAlternatives {type : TypeExpr}
    (noAlternatives : ¬ type.HasAlternatives) : index.materialize type = type := by
  obtain ⟨kind, value, items, since, deprecated⟩ := type
  rw [materialize, if_neg (by simpa [TypeExpr.HasAlternatives] using noAlternatives)]

/-- A union takes the final forms of its alternatives, in their places. -/
theorem materialize_of_hasAlternatives {type : TypeExpr}
    (hasAlternatives : type.HasAlternatives) :
    index.materialize type =
      { type with
        value := variantText (index.sortAlternatives (type.items.map index.materialize))
        items := index.sortAlternatives (type.items.map index.materialize) } := by
  obtain ⟨kind, value, items, since, deprecated⟩ := type
  rw [materialize, if_pos (by simpa [TypeExpr.HasAlternatives] using hasAlternatives),
    materializeAll_eq_map]

/-- Only the text and the items of an expression may change. -/
theorem exists_materialize_eq (index : UnionIndex) (type : TypeExpr) :
    ∃ value items, index.materialize type = { type with value, items } := by
  by_cases hasAlternatives : type.HasAlternatives
  · exact ⟨_, _, materialize_of_hasAlternatives hasAlternatives⟩
  · refine ⟨type.value, type.items, ?_⟩
    rw [materialize_of_not_hasAlternatives hasAlternatives]
    cases type
    rfl

@[simp] theorem kind_materialize (type : TypeExpr) :
    (index.materialize type).kind = type.kind := by
  obtain ⟨value, items, form⟩ := exists_materialize_eq index type
  rw [form]

@[simp] theorem since_materialize (type : TypeExpr) :
    (index.materialize type).since = type.since := by
  obtain ⟨value, items, form⟩ := exists_materialize_eq index type
  rw [form]

@[simp] theorem deprecated_materialize (type : TypeExpr) :
    (index.materialize type).deprecated = type.deprecated := by
  obtain ⟨value, items, form⟩ := exists_materialize_eq index type
  rw [form]

/-- An alternative is judged by what its index has for the name that it refers to. -/
theorem keyOf_eq_judgedBy (index : UnionIndex) (type : TypeExpr) :
    index.keyOf type = judgedBy (index.get? type.value) type := by
  rw [keyOf, UnionKey.of_eq_ofDates]
  rfl

/-- A reference keeps its text and anything else is judged by its own dates, so the final form
of an expression has the same key. -/
@[simp] theorem keyOf_materialize (type : TypeExpr) :
    index.keyOf (index.materialize type) = index.keyOf type := by
  by_cases isReference : type.kind = .reference
  · have noAlternatives : ¬ type.HasAlternatives := by
      rintro ⟨isUnion, -⟩
      rw [isReference] at isUnion
      cases isUnion
    rw [materialize_of_not_hasAlternatives noAlternatives]
  · rw [keyOf_eq_judgedBy, keyOf_eq_judgedBy, judgedBy, judgedBy, kind_materialize,
      if_neg isReference, if_neg isReference, since_materialize, deprecated_materialize]

/-- A union with alternatives has some in its final form. -/
theorem sortAlternatives_ne_nil (index : UnionIndex) {type : TypeExpr}
    (hasAlternatives : type.HasAlternatives) :
    index.sortAlternatives (type.items.map index.materialize) ≠ [] := by
  intro none
  have permuted := (index.arranges_sortAlternatives (type.items.map index.materialize)).perm
  rw [none] at permuted
  exact hasAlternatives.2 (List.map_eq_nil_iff.mp permuted.nil_eq.symm)

/-! ## Final forms -/

/-- What a type expression becomes is its final form. -/
theorem isFinalForm_materialize (type : TypeExpr) :
    IsFinalForm index type (index.materialize type) := by
  induction type using TypeExpr.induction_items with
  | step type inductionHypothesis =>
      by_cases hasAlternatives : type.HasAlternatives
      · rw [materialize_of_hasAlternatives hasAlternatives]
        refine .variant hasAlternatives ?_ (index.arranges_sortAlternatives _)
        rw [List.forall₂_map_right_iff]
        exact List.forall₂_same.mpr inductionHypothesis
      · rw [materialize_of_not_hasAlternatives hasAlternatives]
        exact .unchanged hasAlternatives

/-- Lists whose members are related have the same images if related members have. -/
theorem map_eq_map_of_forall₂ {α β γ : Type} {relation : α -> β -> Prop} {left : α -> γ}
    {right : β -> γ} {items : List α} {others : List β}
    (related : List.Forall₂ relation items others)
    (same : ∀ item ∈ items, ∀ other, relation item other -> left item = right other) :
    items.map left = others.map right := by
  induction related with
  | nil => rfl
  | @cons item other items others isRelated _ inductionHypothesis =>
      obtain ⟨sameItem, sameItems⟩ := List.forall_mem_cons.mp same
      rw [List.map_cons, List.map_cons, sameItem other isRelated, inductionHypothesis sameItems]

/-- There is only one final form. -/
theorem eq_materialize_of_isFinalForm {type final : TypeExpr}
    (isFinal : IsFinalForm index type final) : final = index.materialize type := by
  induction type using TypeExpr.induction_items generalizing final with
  | step type inductionHypothesis =>
      cases isFinal with
      | unchanged noAlternatives =>
          exact (materialize_of_not_hasAlternatives noAlternatives).symm
      | @variant _ finals arranged hasAlternatives forms arranges =>
          have finalsAre : type.items.map index.materialize = finals.map id :=
            map_eq_map_of_forall₂ forms fun item member _ isFinal =>
              (inductionHypothesis item member isFinal).symm
          rw [List.map_id] at finalsAre
          subst finalsAre
          obtain rfl := eq_sortAlternatives_of_arranges arranges
          exact (materialize_of_hasAlternatives hasAlternatives).symm

/-! ## Keys of entities -/

/-- A name is looked up in an index as the first entity with it is found. -/
theorem lookup_map_key {α : Type} (nameOf : α -> String) (keyOf : α -> UnionKey)
    (entities : List α) (name : String) :
    (entities.map fun entity => (nameOf entity, keyOf entity)).lookup name =
      (entities.find? (nameOf · == name)).map keyOf := by
  induction entities with
  | nil => rfl
  | cons entity others inductionHypothesis =>
      rw [List.map_cons, List.lookup_cons, List.find?_cons, BEq.comm]
      cases nameOf entity == name with
      | true => rfl
      | false => exact inductionHypothesis

/-- The index of a model has the key of the first entity with a name. -/
theorem get?_ofModel (model : Model) (name : String) :
    (ofModel model).get? name = entityKey? model name := by
  rw [get?, ofModel, List.lookup_append, List.lookup_append, lookup_map_key, lookup_map_key,
    lookup_map_key, Option.or_assoc]
  rfl

/-- The final form of a type expression has its kind and its dates, and nothing changes but in
unions with alternatives. In such a union, and in those among its alternatives at any depth,
the alternatives take their final forms and stand in the one order that their keys allow:
ascending, and as they were given where keys are level. The text is the variant over them. A
final form has the key of the raw one. This is given by the dates of the expression, and for a
reference that the index knows by those of the first entity with its name. -/
theorem materialize_arranges_alternatives (index : UnionIndex) (type : TypeExpr) :
    ((index.materialize type).kind = type.kind ∧ (index.materialize type).since = type.since ∧
        (index.materialize type).deprecated = type.deprecated) ∧
      (∀ final, IsFinalForm index type final ↔ final = index.materialize type) ∧
      index.keyOf (index.materialize type) = index.keyOf type ∧
      index.keyOf type = judgedBy (index.entries.lookup type.value) type ∧
      ∀ model, (ofModel model).keyOf type = judgedBy (entityKey? model type.value) type := by
  refine ⟨⟨kind_materialize type, since_materialize type, deprecated_materialize type⟩, ?_,
    keyOf_materialize type, keyOf_eq_judgedBy index type, fun model => ?_⟩
  · intro final
    constructor
    · exact eq_materialize_of_isFinalForm
    · rintro rfl
      exact isFinalForm_materialize type
  · rw [keyOf_eq_judgedBy, get?_ofModel]

/-- A final form is its own final form, alternatives and texts at every depth included. -/
theorem materialize_materialize (index : UnionIndex) (type : TypeExpr) :
    index.materialize (index.materialize type) = index.materialize type := by
  induction type using TypeExpr.induction_items with
  | step type inductionHypothesis =>
      by_cases hasAlternatives : type.HasAlternatives
      · have arranges := index.arranges_sortAlternatives (type.items.map index.materialize)
        have someItem := sortAlternatives_ne_nil index hasAlternatives
        rw [materialize_of_hasAlternatives hasAlternatives]
        generalize index.sortAlternatives (type.items.map index.materialize) = arranged
          at arranges someItem ⊢
        have unchanged : arranged.map index.materialize = arranged := by
          refine (List.map_congr_left fun final isFinal => ?_).trans (List.map_id arranged)
          obtain ⟨item, member, rfl⟩ := List.mem_map.mp (arranges.perm.subset isFinal)
          exact inductionHypothesis item member
        have stillHas : TypeExpr.HasAlternatives
            { type with value := variantText arranged, items := arranged } :=
          ⟨hasAlternatives.1, someItem⟩
        rw [materialize_of_hasAlternatives stillHas]
        simp only [unchanged, sortAlternatives_of_ascending arranges.ascending]
      · rw [materialize_of_not_hasAlternatives hasAlternatives,
          materialize_of_not_hasAlternatives hasAlternatives]

end UnionIndex

end Header

end ProtocolHeaders
