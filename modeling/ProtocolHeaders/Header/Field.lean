import ProtocolHeaders.Header.Declaration
import ProtocolHeaders.Header.Union

/-!
# Fields of generated structures

A property of the model becomes a field: a constant if its type is a literal, a pointer
if its type is the structure around it, an optional if its raw name carries the marker,
and a plain one otherwise. The field is called what the raw name says without markers.
-/

namespace ProtocolHeaders.Header

/-- What the documentation of a literal field says about the literals it may have. -/
def acceptedValues (alternatives : List TypeExpr) : String :=
  "Accepted values: " ++
    String.intercalate ", " (alternatives.map fun item => literal item.value)

/-- The documentation of a property once its type is in its final form. -/
def materializeDocumentation (property : Property) : String :=
  if property.type.kind = .literal && !property.type.items.isEmpty then
    if property.documentation.isEmpty then acceptedValues property.type.items
    else property.documentation ++ "\n\n" ++ acceptedValues property.type.items
  else property.documentation

/-- A property with its type in its final form and with the documentation that its
field gets. -/
def materializeProperty (index : UnionIndex) (property : Property) : Property :=
  let typed := { property with type := index.materialize property.type }
  { typed with documentation := materializeDocumentation typed }

/-- How a property in its final form is declared in the structure `enclosing`. -/
def declare (enclosing : String) (property : Property) : FieldDeclaration :=
  if property.type.kind = .literal then .constant property.fieldName property.type.value
  else if property.type.value = enclosing then
    .ownedPointer property.type.value property.fieldName
  else if property.isOptional then .optional property.type.value property.fieldName
  else .plain property.type.value property.fieldName

/-- The field that a property in its final form is in the structure `enclosing`. -/
def finalField (enclosing : String) (property : Property) : Field :=
  { documentation := property.documentation, declaration := declare enclosing property }

/-- The field that a property is in the structure `enclosing`. -/
def fieldOf (index : UnionIndex) (enclosing : String) (property : Property) : Field :=
  finalField enclosing (materializeProperty index property)

/-- A field is called what its property is called without markers. -/
@[simp] theorem name_fieldOf (index : UnionIndex) (enclosing : String) (property : Property) :
    (fieldOf index enclosing property).name = property.fieldName := by
  simp only [fieldOf, finalField, Field.name, declare]
  split
  · rfl
  · split
    · rfl
    · split <;> rfl

end ProtocolHeaders.Header
