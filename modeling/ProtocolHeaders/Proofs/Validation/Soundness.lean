import Mathlib
import ProtocolHeaders.Proofs.Header.Members
import ProtocolHeaders.Proofs.Inheritance.Branches
import ProtocolHeaders.Validation.Basic

/-!
# Structures of a model without findings

A structure is sound for bindings if all its bases are known and no field is listed twice for
it. Every top-level structure of a model without findings is sound. A structure inside another
is only looked at for the types of its properties: it may extend what is not there, and it may
have a field twice. Still, what it inherits through one base does not repeat a field, as that
base is a top-level structure. So it is sound exactly if its bases are known, its own fields
are distinct, and these and the fields through each base keep apart.
-/

namespace ProtocolHeaders.Validation

open Header (Options)
open Header.Bindings (Bound bound)
open Inheritance (flatten inherited inheritedThrough isKnown resolve?)

/-- A structure is fit for bindings among some top-level interfaces. -/
structure IsSound (interfaces : List Interface) (interface : Interface) : Prop where
  known : ∀ base ∈ interface.bases, isKnown interfaces base = true
  distinct : (flatten interfaces interface).Nodup

/-- The own fields of a structure and those through each of its known bases are apart. -/
structure InheritsApart (interfaces : List Interface) (interface : Interface) : Prop where
  known : ∀ base ∈ interface.bases, isKnown interfaces base = true
  own_distinct : interface.fieldNames.Nodup
  own_apart : interface.fieldNames.Disjoint (inherited interfaces interface)
  bases_apart : interface.bases.Pairwise fun first second =>
    (inheritedThrough interfaces interface first).Disjoint
      (inheritedThrough interfaces interface second)

/-- An interface without findings is sound. -/
theorem isSound_of_interfaceFindings_eq_nil {interfaces : List Interface} {interface : Interface}
    (noFindings : interfaceFindings interfaces interface = []) : IsSound interfaces interface := by
  simp only [interfaceFindings, List.append_eq_nil_iff, List.map_eq_nil_iff] at noFindings
  obtain ⟨⟨noUnknown, noRepeats⟩, -⟩ := noFindings
  refine ⟨fun base member => ?_, ?_⟩
  · simpa using List.filter_eq_nil_iff.mp noUnknown base member
  · simpa using Name.repeats_eq_nil_iff.mp noRepeats

/-- All top-level interfaces of a model without findings are sound. -/
theorem isSound_of_findings_eq_nil {model : Model} (noFindings : findings model = []) :
    ∀ interface ∈ model.interfaces, IsSound model.interfaces interface := by
  simp only [findings, List.append_eq_nil_iff, List.flatMap_eq_nil_iff] at noFindings
  obtain ⟨⟨-, ofInterfaces⟩, -⟩ := noFindings
  intro interface member
  exact isSound_of_interfaceFindings_eq_nil (ofInterfaces interface member)

/-- The top-level interfaces of a model without findings have distinct names. -/
theorem nodup_interfaceNames_of_findings_eq_nil {model : Model}
    (noFindings : findings model = []) : model.interfaceNames.Nodup := by
  simp only [findings, List.append_eq_nil_iff, List.map_eq_nil_iff] at noFindings
  exact Name.repeats_eq_nil_iff.mp noFindings.1.1

/-- If all top-level interfaces are sound, what is inherited through a base is distinct. -/
theorem nodup_inheritedThrough {interfaces : List Interface}
    (sound : ∀ interface ∈ interfaces, IsSound interfaces interface) {base : String}
    (known : isKnown interfaces base = true) (interface : Interface) :
    (inheritedThrough interfaces interface base).Nodup := by
  obtain ⟨parent, resolved⟩ := Option.isSome_iff_exists.mp known
  have distinct := (sound parent (Inheritance.mem_of_resolve? resolved)).distinct
  exact (Inheritance.inheritedThrough_sublist_flatten resolved).nodup distinct

/-- If all top-level interfaces are sound, a structure anywhere is sound exactly if its own
fields and those through each of its bases are apart. -/
theorem isSound_iff_inheritsApart {interfaces : List Interface}
    (sound : ∀ interface ∈ interfaces, IsSound interfaces interface) {interface : Interface} :
    IsSound interfaces interface ↔ InheritsApart interfaces interface := by
  constructor
  · rintro ⟨known, distinct⟩
    rw [Inheritance.flatten_eq, List.nodup_append'] at distinct
    obtain ⟨ownDistinct, inheritedDistinct, apart⟩ := distinct
    rw [Inheritance.inherited_eq_flatMap, List.nodup_flatMap] at inheritedDistinct
    exact ⟨known, ownDistinct, apart, inheritedDistinct.2⟩
  · rintro ⟨known, ownDistinct, apart, basesApart⟩
    refine ⟨known, ?_⟩
    rw [Inheritance.flatten_eq, List.nodup_append']
    refine ⟨ownDistinct, ?_, apart⟩
    rw [Inheritance.inherited_eq_flatMap, List.nodup_flatMap]
    exact ⟨fun base member => nodup_inheritedThrough sound (known base member) _, basesApart⟩

/-- A structure with a binding is the top-level interface it was found in, or its path is
longer. -/
theorem eq_or_lt_length_of_mem_bound {options : Options} {interface : Interface} {inner : Bound}
    (isBound : inner ∈ bound options [] interface) :
    inner = ⟨[interface.scopedName], interface⟩ ∨ 1 < inner.path.length := by
  -- What is declared does not matter here, so nothing is declared but the interface.
  have isDeclared : Header.Declarations.structOf (.ofModel {}) interface ∈
      [Header.Declarations.structOf (.ofModel {}) interface] := List.mem_cons_self
  rcases Header.eq_or_standsAt_of_mem_bound isDeclared isBound with isTop | ⟨longer, -⟩
  · exact .inl isTop
  · exact .inr longer

/-- In a model without findings, a structure with a binding is sound exactly if it stands at
the top or its own fields and those through each of its bases are apart. -/
theorem bound_structures_are_sound_iff (options : Options) (model : Model)
    (noFindings : findings model = []) :
    ∀ interface ∈ model.interfaces, ∀ inner ∈ bound options [] interface,
      IsSound model.interfaces inner.interface ↔
        inner.path.length = 1 ∨ InheritsApart model.interfaces inner.interface := by
  have sound := isSound_of_findings_eq_nil noFindings
  intro interface member inner isBound
  constructor
  · intro innerSound
    exact .inr ((isSound_iff_inheritsApart sound).mp innerSound)
  · rintro (isTop | apart)
    · rcases eq_or_lt_length_of_mem_bound isBound with rfl | longer
      · exact sound interface member
      · omega
    · exact (isSound_iff_inheritsApart sound).mpr apart

/-- A structure inside another that inherits different fields through two bases. -/
def steadyChild : Bound :=
  ⟨["Outer", "steady"],
    { name := "steady", bases := ["Left", "Right"]
      properties := [{ name := "z", type := .base "int" }] }⟩

/-- A structure inside another that inherits one field through two bases. -/
def clashingChild : Bound :=
  ⟨["Outer", "clashing"], { name := "clashing", bases := ["Left", "Right", "Echo"] }⟩

/-- The structure around both. -/
def clashingInterface : Interface :=
  { name := "Outer", children := [steadyChild.interface, clashingChild.interface] }

/-- A model without findings. -/
def clashingFieldsModel : Model :=
  { interfaces :=
      [{ name := "Left", properties := [{ name := "x", type := .base "int" }] },
        { name := "Right", properties := [{ name := "y?", type := .base "int" }] },
        { name := "Echo", properties := [{ name := "readonly x", type := .base "int" }] },
        clashingInterface] }

/-- Without findings, one of two structures inside another is sound and the other is not. -/
theorem clash_inside_another_is_not_found :
    findings clashingFieldsModel = [] ∧ clashingInterface ∈ clashingFieldsModel.interfaces ∧
      steadyChild ∈ bound {} [] clashingInterface ∧
      IsSound clashingFieldsModel.interfaces steadyChild.interface ∧
      clashingChild ∈ bound {} [] clashingInterface ∧
      ¬ IsSound clashingFieldsModel.interfaces clashingChild.interface := by
  have noFindings : findings clashingFieldsModel = [] := by cbv
  have member : clashingInterface ∈ clashingFieldsModel.interfaces := by simp [clashingFieldsModel]
  have isBound : bound {} [] clashingInterface =
      [steadyChild, clashingChild, ⟨["Outer"], clashingInterface⟩] := by cbv
  have soundIff := bound_structures_are_sound_iff {} clashingFieldsModel noFindings _ member
  rw [isBound] at soundIff ⊢
  refine ⟨noFindings, member, by simp, ?_, by simp, ?_⟩
  · have left : inheritedThrough clashingFieldsModel.interfaces steadyChild.interface "Left" =
        ["x"] := by cbv
    have right : inheritedThrough clashingFieldsModel.interfaces steadyChild.interface "Right" =
        ["y"] := by cbv
    have both : inherited clashingFieldsModel.interfaces steadyChild.interface = ["x", "y"] := by
      cbv
    have own : steadyChild.interface.fieldNames = ["z"] := by cbv
    have bases : steadyChild.interface.bases = ["Left", "Right"] := rfl
    refine (soundIff steadyChild (by simp)).mpr (.inr ⟨by decide +kernel, ?_, ?_, ?_⟩)
    · simp [own]
    · simp [own, both]
    · rw [bases]
      simp [left, right]
  · have left : inheritedThrough clashingFieldsModel.interfaces clashingChild.interface "Left" =
        ["x"] := by cbv
    have echo : inheritedThrough clashingFieldsModel.interfaces clashingChild.interface "Echo" =
        ["x"] := by cbv
    rw [soundIff clashingChild (by simp)]
    rintro (isTop | ⟨-, -, -, apart⟩)
    · cases isTop
    · have clash := (List.pairwise_cons.mp apart).1 "Echo" (by simp)
      simp [left, echo] at clash

/-- A structure inside another that extends what is not there and has a field twice. -/
def strayChild : Bound :=
  ⟨["Outer", "inner"],
    { name := "inner", bases := ["Missing"]
      properties := [{ name := "x", type := .base "int" }, { name := "x?", type := .base "int" }] }⟩

/-- The structure around it. -/
def strayInterface : Interface :=
  { name := "Outer", children := [strayChild.interface] }

/-- A model with nothing else. -/
def strayModel : Model :=
  { interfaces := [strayInterface] }

/-- A model may have no findings and yet a structure with a binding that extends an unknown
interface and lists a field twice. -/
theorem stray_child_is_not_found :
    findings strayModel = [] ∧ strayInterface ∈ strayModel.interfaces ∧
      strayChild ∈ bound {} [] strayInterface ∧
      strayChild.binding {} strayModel.interfaces = .fields "Outer::inner" ["x", "x"] ∧
      (∃ base ∈ strayChild.interface.bases, isKnown strayModel.interfaces base = false) ∧
      ¬ (flatten strayModel.interfaces strayChild.interface).Nodup := by
  have listed : flatten strayModel.interfaces strayChild.interface = ["x", "x"] := by cbv
  have isBound : bound {} [] strayInterface = [strayChild, ⟨["Outer"], strayInterface⟩] := by cbv
  refine ⟨by cbv, by simp [strayModel], by simp [isBound], by cbv, ?_, by simp [listed]⟩
  exact ⟨"Missing", by simp [strayChild], by decide +kernel⟩

end ProtocolHeaders.Validation
