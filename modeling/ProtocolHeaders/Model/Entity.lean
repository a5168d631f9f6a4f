import ProtocolHeaders.Model.Marker
import ProtocolHeaders.Model.TypeExpr
import ProtocolHeaders.Name.Set

/-!
# The entities of a model

A model holds enumerations, named aliases of type expressions, interfaces, and
the messages of the protocol: requests and notifications. An interface extends
others by name and may nest further interfaces.
-/

namespace ProtocolHeaders

/-- How the values of an enumeration are sent. -/
inductive EnumerationKind where
  /-- As string literals. -/
  | string
  /-- As signed integers. -/
  | integer
  /-- As unsigned integers. -/
  | unsigned
deriving Repr, DecidableEq, Inhabited

/-- One value of an enumeration. `value` is its text: the literal of a string
value, or the number or symbol of an integer value. -/
structure EnumerationValue where
  name : String
  value : String
  documentation : String := ""
deriving Repr, DecidableEq, Inhabited

/-- An enumeration with its values in declaration order. -/
structure Enumeration where
  name : String
  documentation : String := ""
  kind : EnumerationKind
  values : List EnumerationValue := []
  since : Option String := none
  deprecated : Option String := none
deriving Repr, DecidableEq, Inhabited

namespace Enumeration

instance : Dated Enumeration := ⟨Enumeration.since, Enumeration.deprecated⟩

/-- Whether the values are sent as strings. -/
def isString (enumeration : Enumeration) : Bool :=
  enumeration.kind == .string

end Enumeration

/-- A field of an interface. The raw name may carry markers. -/
structure Property where
  name : String
  documentation : String := ""
  type : TypeExpr
deriving Repr, DecidableEq, Inhabited

namespace Property

/-- Whether the field may be absent. -/
def isOptional (property : Property) : Bool :=
  Marker.isOptional property.name

/-- The name of the field in generated code. -/
def fieldName (property : Property) : String :=
  Marker.strip property.name

end Property

/-- A name for a type expression, with the entities that the expression needs. -/
structure Alias where
  name : String
  documentation : String := ""
  type : TypeExpr
  dependencies : NameSet := .empty
  since : Option String := none
  deprecated : Option String := none
deriving Repr, DecidableEq, Inhabited

instance : Dated Alias := ⟨Alias.since, Alias.deprecated⟩

/-- A structure: own fields, the interfaces it extends in declaration order,
nested structures, and the entities that have to be declared before it. -/
structure Interface where
  name : String
  documentation : String := ""
  bases : List String := []
  properties : List Property := []
  children : List Interface := []
  dependencies : NameSet := .empty
  since : Option String := none
  deprecated : Option String := none
deriving Repr, Inhabited

namespace Interface

instance : Dated Interface := ⟨Interface.since, Interface.deprecated⟩

/-- The name of the structure in generated code. -/
def scopedName (interface : Interface) : String :=
  Marker.strip interface.name

/-- The names of the own fields in generated code. -/
def fieldNames (interface : Interface) : List String :=
  interface.properties.map Property.fieldName

mutual

/-- Equality of interfaces is decided part by part. -/
protected def decEq : (left right : Interface) -> Decidable (left = right)
  | ⟨name, documentation, bases, properties, children, dependencies, since, deprecated⟩,
    ⟨name', documentation', bases', properties', children', dependencies', since', deprecated'⟩ =>
      match Interface.decEqList children children' with
      | isTrue sameChildren =>
          if same : name = name' ∧ documentation = documentation' ∧ bases = bases' ∧
              properties = properties' ∧ dependencies = dependencies' ∧ since = since' ∧
              deprecated = deprecated' then
            isTrue (by obtain ⟨rfl, rfl, rfl, rfl, rfl, rfl, rfl⟩ := same; rw [sameChildren])
          else
            isFalse fun equal => same (by cases equal; simp)
      | isFalse differ => isFalse fun equal => differ (by cases equal; rfl)

/-- Equality of lists of interfaces is decided member by member. -/
protected def decEqList : (left right : List Interface) -> Decidable (left = right)
  | [], [] => isTrue rfl
  | [], _ :: _ => isFalse nofun
  | _ :: _, [] => isFalse nofun
  | first :: others, first' :: others' =>
      match Interface.decEq first first', Interface.decEqList others others' with
      | isTrue sameFirst, isTrue sameOthers => isTrue (by rw [sameFirst, sameOthers])
      | isFalse differ, _ => isFalse fun equal => differ (List.cons.inj equal).1
      | _, isFalse differ => isFalse fun equal => differ (List.cons.inj equal).2

end

instance : DecidableEq Interface := Interface.decEq

end Interface

/-- A request. Types are given by their text in the generated code. -/
structure Request where
  method : String
  params : Option String := none
  result : Option String := none
  error : Option String := none
  documentation : String := ""
deriving Repr, DecidableEq, Inhabited

/-- A notification. -/
structure Notification where
  method : String
  params : Option String := none
  documentation : String := ""
deriving Repr, DecidableEq, Inhabited

end ProtocolHeaders
