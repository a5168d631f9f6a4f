import ProtocolHeaders.Model.Format

/-!
# Models are recovered from their data

Every entity of a model is what its data stands for, whatever its texts hold. So a
model that is converted to data and back is the model itself: kinds are recovered from
their names, dependency sets from the lists of their members, and an absent text stays
apart from an empty one.
-/

namespace ProtocolHeaders.ModelFormat

open Json (Data)

/-- The kind of an enumeration is recovered from its name. -/
@[simp] theorem memberIn_enumerationKinds (kind : EnumerationKind) :
    memberIn enumerationKinds (nameIn enumerationKinds kind) = kind := by
  cases kind <;> decide

/-- The kind of a type expression is recovered from its name. -/
@[simp] theorem memberIn_typeKinds (kind : TypeKind) :
    memberIn typeKinds (nameIn typeKinds kind) = kind := by
  cases kind <;> decide

mutual

/-- A type expression is recovered from its data. -/
theorem toTypeExpr_ofTypeExpr : (type : TypeExpr) -> toTypeExpr (ofTypeExpr type) = type
  | ⟨kind, value, items, since, deprecated⟩ => by
      simp [ofTypeExpr, toTypeExpr, toTypeExprs_ofTypeExprs items, Data.asText]

/-- Type expressions are recovered from their data. -/
theorem toTypeExprs_ofTypeExprs : (types : List TypeExpr) ->
    toTypeExprs (ofTypeExprs types) = types
  | [] => rfl
  | type :: types => by
      simp [ofTypeExprs, toTypeExprs, toTypeExpr_ofTypeExpr type, toTypeExprs_ofTypeExprs types]

end

/-- An enumeration value is recovered from its data. -/
theorem toEnumerationValue_ofEnumerationValue (value : EnumerationValue) :
    toEnumerationValue (ofEnumerationValue value) = value := by
  simp [toEnumerationValue, ofEnumerationValue, Data.field, Data.asText]

/-- An enumeration is recovered from its data. -/
theorem toEnumeration_ofEnumeration (enumeration : Enumeration) :
    toEnumeration (ofEnumeration enumeration) = enumeration := by
  simp [toEnumeration, ofEnumeration, Data.field, Data.asText, Data.asList, Function.comp_def,
    toEnumerationValue_ofEnumerationValue]

/-- A property is recovered from its data. -/
theorem toProperty_ofProperty (property : Property) :
    toProperty (ofProperty property) = property := by
  simp [toProperty, ofProperty, Data.field, Data.asText, toTypeExpr_ofTypeExpr]

/-- A dependency set is recovered from the list of its members. -/
theorem toNames_ofNames (names : NameSet) : toNames (ofNames names) = names := by
  simp [toNames, ofNames, NameSet.ofList_names]

/-- An alias is recovered from its data. -/
theorem toAlias_ofAlias (entity : Alias) : toAlias (ofAlias entity) = entity := by
  simp [toAlias, ofAlias, Data.field, Data.asText, toTypeExpr_ofTypeExpr, toNames_ofNames]

mutual

/-- An interface is recovered from its data, with those inside it. -/
theorem toInterface_ofInterface : (interface : Interface) ->
    toInterface (ofInterface interface) = interface
  | ⟨name, documentation, bases, properties, children, dependencies, since, deprecated⟩ => by
      simp [ofInterface, toInterface, toInterfaces_ofInterfaces children, Data.asText,
        Data.asList, Function.comp_def, toProperty_ofProperty, toNames_ofNames]

/-- Interfaces are recovered from their data. -/
theorem toInterfaces_ofInterfaces : (interfaces : List Interface) ->
    toInterfaces (ofInterfaces interfaces) = interfaces
  | [] => rfl
  | interface :: others => by
      simp [ofInterfaces, toInterfaces, toInterface_ofInterface interface,
        toInterfaces_ofInterfaces others]

end

/-- A request is recovered from its data. -/
theorem toRequest_ofRequest (request : Request) : toRequest (ofRequest request) = request := by
  simp [toRequest, ofRequest, Data.field, Data.asText]

/-- A notification is recovered from its data. -/
theorem toNotification_ofNotification (notification : Notification) :
    toNotification (ofNotification notification) = notification := by
  simp [toNotification, ofNotification, Data.field, Data.asText]

/-- A model is recovered from its data. -/
theorem toModel_ofModel (model : Model) : toModel (ofModel model) = model := by
  simp [toModel, ofModel, Data.field, Data.asList, Function.comp_def,
    toEnumeration_ofEnumeration, toAlias_ofAlias, toInterfaces_ofInterfaces,
    toRequest_ofRequest, toNotification_ofNotification]

end ProtocolHeaders.ModelFormat
