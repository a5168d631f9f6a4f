import ProtocolHeaders.Proofs.Union.Reordering
import ProtocolHeaders.Proofs.Validation.Exactness

/-!
# Blank types of a model without findings

Validation judges a type expression as a whole and before it takes its final form. In a model
without findings no final form of a property or an alias is blank, since a union with
alternatives is written as a variant and anything else keeps its text. The alternatives of
unions are not looked at. One that a model writes with blanks only is still there in the final
form; but taking the final form makes no alternative blank, at whatever depth it stands.
-/

namespace ProtocolHeaders

/-- A type expression is written with blanks only. -/
def TypeExpr.IsBlank (type : TypeExpr) : Prop :=
  ∀ c ∈ type.value.toList, Text.isBlank c = true

namespace Validation

open Cleanup (IsWithin)
open Header (Reaches UnionIndex)

/-- An alternative of a type expression that is a union or, at any depth, of a union among its
alternatives. -/
def IsAlternativeIn (type alternative : TypeExpr) : Prop :=
  ∃ around, Reaches type around ∧ around.kind = .union ∧ alternative ∈ around.items

/-- The type expressions of the properties of all structures and those of the aliases. -/
inductive OccursIn (model : Model) : TypeExpr -> Prop where
  | property {interface : Interface} {property : Property}
      (within : IsWithin model.interfaces interface) (member : property ∈ interface.properties) :
      OccursIn model property.type
  | typeAlias {entity : Alias} (member : entity ∈ model.aliases) : OccursIn model entity.type

section

variable {index : UnionIndex} {type : TypeExpr}

/-! ## What final forms reach -/

/-- The alternatives of a union in its final form are the final forms of its alternatives. -/
theorem mem_items_materialize_iff {final : TypeExpr} (isUnion : type.kind = .union) :
    final ∈ (index.materialize type).items ↔
      ∃ item ∈ type.items, index.materialize item = final := by
  by_cases hasAlternatives : type.HasAlternatives
  · have permuted := (index.arranges_sortAlternatives (type.items.map index.materialize)).perm
    rw [UnionIndex.materialize_of_hasAlternatives hasAlternatives, permuted.mem_iff, List.mem_map]
  · have noItems : type.items = [] := by
      simpa [TypeExpr.HasAlternatives, isUnion] using hasAlternatives
    simp [UnionIndex.materialize_of_not_hasAlternatives hasAlternatives, noItems]

/-- A final form reaches the final forms of what the raw expression reaches. -/
theorem reaches_materialize_iff {final : TypeExpr} :
    Reaches (index.materialize type) final ↔
      ∃ raw, Reaches type raw ∧ index.materialize raw = final := by
  constructor
  · intro reaches
    induction type using TypeExpr.induction_items with
    | step type inductionHypothesis =>
        rcases reaches with _ | ⟨isUnion, member, reaches⟩
        · exact ⟨type, .self type, rfl⟩
        · rw [UnionIndex.kind_materialize] at isUnion
          obtain ⟨item, isItem, rfl⟩ := (mem_items_materialize_iff isUnion).mp member
          obtain ⟨raw, itemReaches, rfl⟩ := inductionHypothesis item isItem reaches
          exact ⟨raw, .alternative isUnion isItem itemReaches, rfl⟩
  · rintro ⟨raw, reaches, rfl⟩
    induction reaches with
    | self type => exact .self _
    | @alternative type item inner isUnion member _ inductionHypothesis =>
        have isFinal : index.materialize item ∈ (index.materialize type).items :=
          (mem_items_materialize_iff isUnion).mpr ⟨item, member, rfl⟩
        exact .alternative (by rwa [UnionIndex.kind_materialize]) isFinal inductionHypothesis

/-- The alternatives in a final form are the final forms of those in the raw expression. -/
theorem isAlternativeIn_materialize_iff {final : TypeExpr} :
    IsAlternativeIn (index.materialize type) final ↔
      ∃ raw, IsAlternativeIn type raw ∧ index.materialize raw = final := by
  constructor
  · rintro ⟨_, reaches, isUnion, member⟩
    obtain ⟨around, rawReaches, rfl⟩ := reaches_materialize_iff.mp reaches
    rw [UnionIndex.kind_materialize] at isUnion
    obtain ⟨raw, isItem, rfl⟩ := (mem_items_materialize_iff isUnion).mp member
    exact ⟨raw, ⟨around, rawReaches, isUnion, isItem⟩, rfl⟩
  · rintro ⟨raw, ⟨around, reaches, isUnion, isItem⟩, rfl⟩
    refine ⟨index.materialize around, reaches_materialize_iff.mpr ⟨around, reaches, rfl⟩, ?_, ?_⟩
    · rwa [UnionIndex.kind_materialize]
    · exact (mem_items_materialize_iff isUnion).mpr ⟨raw, isItem, rfl⟩

/-- A union with alternatives that a final form reaches is written as the variant over them. -/
theorem value_eq_of_reaches_materialize {around : TypeExpr}
    (reaches : Reaches (index.materialize type) around)
    (hasAlternatives : around.HasAlternatives) :
    around.value = UnionIndex.variantText around.items := by
  obtain ⟨raw, -, rfl⟩ := reaches_materialize_iff.mp reaches
  by_cases rawHas : raw.HasAlternatives
  · rw [UnionIndex.materialize_of_hasAlternatives rawHas]
  · rw [UnionIndex.materialize_of_not_hasAlternatives rawHas] at hasAlternatives
    exact absurd hasAlternatives rawHas

/-! ## Blank final forms -/

/-- A final form is blank if the raw expression is, unless this has alternatives. -/
theorem isBlank_materialize_iff :
    (index.materialize type).IsBlank ↔ ¬ type.HasAlternatives ∧ type.IsBlank := by
  by_cases hasAlternatives : type.HasAlternatives
  · have visible : ¬ (index.materialize type).IsBlank := by
      rw [UnionIndex.materialize_of_hasAlternatives hasAlternatives]
      intro blank
      have first : 's' ∈ (UnionIndex.variantText
          (index.sortAlternatives (type.items.map index.materialize))).toList := by
        simp [UnionIndex.variantText]
      exact absurd (blank 's' first) (by decide)
    simp [hasAlternatives, visible]
  · rw [UnionIndex.materialize_of_not_hasAlternatives hasAlternatives]
    simp [hasAlternatives]

/-- What is no literal says nothing exactly if its final form is blank. -/
theorem saysNothing_iff_isBlank_materialize (noLiteral : type.kind ≠ .literal) :
    SaysNothing type ↔ (index.materialize type).IsBlank := by
  rw [isBlank_materialize_iff, SaysNothing, TypeExpr.IsBlank, TypeExpr.HasAlternatives]
  constructor
  · rintro ⟨-, blank, noItems⟩
    exact ⟨fun hasAlternatives => hasAlternatives.2 (noItems hasAlternatives.1), blank⟩
  · rintro ⟨noAlternatives, blank⟩
    exact ⟨noLiteral, blank, fun isUnion => not_not.mp fun someItem =>
      noAlternatives ⟨isUnion, someItem⟩⟩

/-- In a model without findings every type expression says something. -/
theorem not_saysNothing_of_findings_eq_nil {model : Model} (noFindings : findings model = [])
    (occurs : OccursIn model type) : ¬ SaysNothing type := by
  have flawless : IsFlawless model := by
    rw [← defectCount_eq_zero_iff, ← length_findings, noFindings, List.length_nil]
  cases occurs with
  | property within member => exact flawless.properties_typed _ within _ member
  | typeAlias member => exact flawless.aliases_typed _ member

/-- The blank alternatives in a final form are those in the raw expression, which keep as they
are. -/
theorem blank_isAlternativeIn_materialize_iff {alternative : TypeExpr} :
    (IsAlternativeIn (index.materialize type) alternative ∧ alternative.IsBlank) ↔
      IsAlternativeIn type alternative ∧ ¬ alternative.HasAlternatives ∧ alternative.IsBlank := by
  rw [isAlternativeIn_materialize_iff]
  constructor
  · rintro ⟨⟨raw, isAlternative, rfl⟩, blank⟩
    obtain ⟨noAlternatives, rawBlank⟩ := isBlank_materialize_iff.mp blank
    rw [UnionIndex.materialize_of_not_hasAlternatives noAlternatives]
    exact ⟨isAlternative, noAlternatives, rawBlank⟩
  · rintro ⟨isAlternative, noAlternatives, blank⟩
    exact ⟨⟨alternative, isAlternative,
      UnionIndex.materialize_of_not_hasAlternatives noAlternatives⟩, blank⟩

end

/-- In a model without findings the final form of a property or an alias is not blank, unless it
is a literal. Each union with alternatives in it, at any depth, is written as the variant over
them, and one of these is blank exactly if the model writes it so: if it stands among the
alternatives of the raw expression, with blanks only and no alternatives of its own. -/
theorem blank_alternatives_are_given (index : UnionIndex) (model : Model)
    (noFindings : findings model = []) (type : TypeExpr) (occurs : OccursIn model type)
    (noLiteral : type.kind ≠ .literal) :
    ¬ (index.materialize type).IsBlank ∧
      (∀ around, Reaches (index.materialize type) around -> around.HasAlternatives ->
        around.value = UnionIndex.variantText around.items) ∧
      ∀ alternative,
        (IsAlternativeIn (index.materialize type) alternative ∧ alternative.IsBlank) ↔
          IsAlternativeIn type alternative ∧ ¬ alternative.HasAlternatives ∧
            alternative.IsBlank := by
  have saysSomething := not_saysNothing_of_findings_eq_nil noFindings occurs
  refine ⟨?_, ?_, fun alternative => blank_isAlternativeIn_materialize_iff⟩
  · rwa [← saysNothing_iff_isBlank_materialize noLiteral]
  · intro around reaches hasAlternatives
    exact value_eq_of_reaches_materialize reaches hasAlternatives

/-- A union with another one among its alternatives, one of which is written with a blank. -/
def layeredUnion : TypeExpr :=
  .union [.base "int", .union [.base " ", .reference "Id"]]

/-- A structure inside another with a property of this type. -/
def layeredChild : Interface :=
  { name := "inner?", properties := [{ name := "value?", type := layeredUnion }] }

/-- A model with nothing else. -/
def layeredModel : Model :=
  { interfaces := [{ name := "Outer", children := [layeredChild] }] }

/-- The type of a property at some depth is not blank in a model without findings, but an
alternative of an alternative is, as it was. -/
theorem layered_blank_is_given :
    findings layeredModel = [] ∧ OccursIn layeredModel layeredUnion ∧
      layeredUnion.kind ≠ .literal ∧
      ¬ ((UnionIndex.ofModel layeredModel).materialize layeredUnion).IsBlank ∧
      IsAlternativeIn ((UnionIndex.ofModel layeredModel).materialize layeredUnion) (.base " ") := by
  have noFindings : findings layeredModel = [] := by cbv
  have within : IsWithin layeredModel.interfaces layeredChild :=
    .inside (.listed List.mem_cons_self) List.mem_cons_self
  have occurs : OccursIn layeredModel layeredUnion := .property within List.mem_cons_self
  have inner : Reaches layeredUnion (.union [.base " ", .reference "Id"]) :=
    .alternative rfl (List.mem_cons_of_mem _ List.mem_cons_self) (.self _)
  have isAlternative : IsAlternativeIn layeredUnion (.base " ") :=
    ⟨_, inner, rfl, List.mem_cons_self⟩
  have blank : (TypeExpr.base " ").IsBlank := by
    simp [TypeExpr.IsBlank, TypeExpr.base, Text.isBlank]
  obtain ⟨visible, -, blankIff⟩ := blank_alternatives_are_given (.ofModel layeredModel)
    layeredModel noFindings layeredUnion occurs (by decide)
  have given := (blankIff (.base " ")).mpr ⟨isAlternative, by decide, blank⟩
  exact ⟨noFindings, occurs, by decide, visible, given.1⟩

/-- A union one of whose alternatives is written with nothing at all. -/
def hollowUnion : TypeExpr :=
  .union [.base "int", .base ""]

/-- A structure with a property of this type. -/
def hollowHolder : Interface :=
  { name := "Holder", properties := [{ name := "value", type := hollowUnion }] }

/-- A model with nothing else. -/
def hollowModel : Model :=
  { interfaces := [hollowHolder] }

/-- A model may have no findings and yet a property whose final form is a variant with a blank
alternative. -/
theorem blank_alternative_is_not_found :
    findings hollowModel = [] ∧ OccursIn hollowModel hollowUnion ∧ hollowUnion.kind ≠ .literal ∧
      ((UnionIndex.ofModel hollowModel).materialize hollowUnion).value = "std::variant<int, >" ∧
      ∃ alternative, IsAlternativeIn ((UnionIndex.ofModel hollowModel).materialize hollowUnion)
        alternative ∧ alternative.IsBlank := by
  have final : (UnionIndex.ofModel hollowModel).materialize hollowUnion =
      { hollowUnion with value := "std::variant<int, >" } := by cbv
  have within : IsWithin hollowModel.interfaces hollowHolder := .listed List.mem_cons_self
  have occurs : OccursIn hollowModel hollowUnion := .property within List.mem_cons_self
  refine ⟨by cbv, occurs, by decide, ?_, ?_⟩
  · rw [final]
  · rw [final]
    have member : TypeExpr.base "" ∈ hollowUnion.items := List.mem_cons_of_mem _ List.mem_cons_self
    exact ⟨.base "", ⟨_, .self _, rfl, member⟩, by simp [TypeExpr.IsBlank, TypeExpr.base]⟩

end Validation

end ProtocolHeaders
