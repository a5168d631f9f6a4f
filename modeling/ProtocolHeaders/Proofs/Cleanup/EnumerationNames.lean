import Mathlib.Data.List.Nodup
import ProtocolHeaders.Proofs.Cleanup.Survivors

/-!
# Names of enumerations after a cleanup

A cleanup keeps one enumeration of each name and then renames. Nothing makes the new names
distinct again: if a rule gives an enumeration a name that another one has or gets, both stay
under it. So the names are distinct exactly if the rules never lead from two names that occur
to the same one.
-/

namespace ProtocolHeaders.Cleanup

/-- The name under which an enumeration comes out of a cleanup. -/
def Rules.newName (rules : Rules) (name : String) : String :=
  (rules.enumRenames.get? name).getD name

/-- Rules keep names apart if they never give two of them the same new name. -/
def Rules.KeepsApart (rules : Rules) (names : List String) : Prop :=
  ∀ first ∈ names, ∀ second ∈ names, rules.newName first = rules.newName second -> first = second

/-- After a cleanup each name is the new one of a name that occurred, in the order in which
these occurred first. -/
theorem enumerationNames_clean (rules : Rules) (model : Model) :
    (clean rules model).model.enumerationNames =
      ((Name.firsts Enumeration.name model.enumerations).map Enumeration.name).map
        rules.newName := by
  rw [Model.enumerationNames, enumerations_clean, List.map_map, List.map_map]
  rfl

/-- A cleanup leaves distinct enumeration names if and only if its rules keep the names apart
that were there before. -/
theorem enumerationNames_distinct_iff (rules : Rules) (model : Model) :
    (clean rules model).model.enumerationNames.Nodup ↔
      rules.KeepsApart model.enumerationNames := by
  have distinct := Name.nodup_map_firsts Enumeration.name model.enumerations
  rw [enumerationNames_clean, List.nodup_map_iff_inj_on distinct]
  simp only [Name.mem_map_firsts]
  exact Iff.rfl

/-- A model with an enumeration that the built-in rules rename and one that has the new name
already. -/
def doubledModel : Model :=
  { enumerations :=
      [{ name := "InitializeError", kind := .integer },
        { name := "InitializeErrorCodes", kind := .integer }] }

/-- Already the built-in rules can leave two enumerations of one name. -/
theorem standard_rules_double_a_name :
    (clean .standard doubledModel).model.enumerationNames =
        ["InitializeErrorCodes", "InitializeErrorCodes"] ∧
      ¬ (clean .standard doubledModel).model.enumerationNames.Nodup := by
  have names : (clean .standard doubledModel).model.enumerationNames =
      ["InitializeErrorCodes", "InitializeErrorCodes"] := by
    decide +kernel
  refine ⟨names, ?_⟩
  rw [names]
  simp

end ProtocolHeaders.Cleanup
