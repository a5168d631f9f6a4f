import ProtocolHeaders.Inheritance
import ProtocolHeaders.Name.First
import ProtocolHeaders.Text.Blank

/-!
# Validating a model

The findings of a model: repeated interface names, unknown bases, fields that an
interface has twice, and properties and aliases without a type. Validation never
changes the model.
-/

namespace ProtocolHeaders.Validation

open Log (Event)

/-- Whether a type expression says nothing. An empty literal is a literal, and a
union with alternatives is rendered from them. -/
def isEmptyType (type : TypeExpr) : Bool :=
  match type.kind with
  | .literal => false
  | .union => type.items.isEmpty && Text.onlyBlanks type.value.toList
  | _ => Text.onlyBlanks type.value.toList

/-- The properties without a type among the own ones of a structure. -/
def ownEmptyProperties (path : String) (properties : List Property) : List Finding :=
  (properties.filter fun property => isEmptyType property.type).map fun property =>
    .emptyProperty path property.fieldName

mutual

/-- The properties without a type of a structure and of the structures in it. -/
def emptyProperties (path : String) : Interface -> List Finding
  | ⟨_, _, _, properties, children, _, _, _⟩ =>
      ownEmptyProperties path properties ++ emptyPropertiesOfAll path children

/-- The properties without a type of the structures in the structure at a path. -/
def emptyPropertiesOfAll (path : String) : List Interface -> List Finding
  | [] => []
  | child :: others =>
      emptyProperties (path ++ "::" ++ child.scopedName) child ++
        emptyPropertiesOfAll path others

end

/-- The findings about one interface of a model. -/
def interfaceFindings (interfaces : List Interface) (interface : Interface) : List Finding :=
  (interface.bases.filter (!Inheritance.isKnown interfaces ·)).map
      (.unknownBase interface.name) ++
    (Name.repeats id (Inheritance.flatten interfaces interface)).map
      (.duplicateField interface.name) ++
    emptyProperties interface.name interface

/-- The findings of a model: names first, then interface by interface, then aliases. -/
def findings (model : Model) : List Finding :=
  (Name.repeats Interface.name model.interfaces).map (fun interface =>
      .duplicateInterface interface.name) ++
    model.interfaces.flatMap (interfaceFindings model.interfaces) ++
    (model.aliases.filter fun entity => isEmptyType entity.type).map fun entity =>
      .emptyAlias entity.name

/-- What looking for findings reports: the extension cycles it meets. -/
def events (model : Model) : List Event :=
  model.interfaces.flatMap (Inheritance.events model.interfaces)

end ProtocolHeaders.Validation
