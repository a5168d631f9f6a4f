import ProtocolHeaders.Json.Reader
import ProtocolHeaders.Json.Writer
import ProtocolHeaders.Model.Basic

/-!
# The file format of models

The records of a model file, and the conversion between the entities of a model and
the data that a file holds. Converting to data and back changes nothing.
-/

namespace ProtocolHeaders.ModelFormat

open Json (Data Field Shape RecordShape)

/-- The records of a model file. -/
inductive Record where
  | model
  | enumeration
  | enumerationValue
  | typeExpr
  | property
  | typeAlias
  | interface
  | request
  | notification
deriving Repr, DecidableEq

/-- The names of the kinds of enumerations. -/
def enumerationKinds : List (EnumerationKind × String) :=
  [(.string, "string"), (.integer, "integer"), (.unsigned, "uinteger")]

/-- The names of the kinds of type expressions. -/
def typeKinds : List (TypeKind × String) :=
  [(.base, "base"), (.reference, "reference"), (.array, "array"), (.map, "map"),
    (.tuple, "tuple"), (.union, "or"), (.literal, "stringLiteral")]

/-- The fields of each record, in the order in which they are written. -/
def format : Json.Format Record
  | .model =>
      ⟨"struct MetaModel",
        [.list "enumerations" (.record .enumeration), .list "typeAliases" (.record .typeAlias),
          .list "interfaces" (.record .interface), .list "requests" (.record .request),
          .list "notifications" (.record .notification)]⟩
  | .enumeration =>
      ⟨"struct Enumeration",
        [.required "name" .text, .text "documentation",
          .required "kind" (.choice (enumerationKinds.map Prod.snd)),
          .list "values" (.record .enumerationValue), .optionalText "since",
          .optionalText "deprecated"]⟩
  | .enumerationValue =>
      ⟨"struct EnumerationValue",
        [.required "name" .text, .required "value" .text, .text "documentation"]⟩
  | .typeExpr =>
      ⟨"struct TypeRef",
        [.required "kind" (.choice (typeKinds.map Prod.snd)), .required "value" .text,
          .sparseList "items" (.record .typeExpr), .optionalText "since",
          .optionalText "deprecated"]⟩
  | .property =>
      ⟨"struct Property",
        [.required "name" .text, .text "documentation", .required "type" (.record .typeExpr)]⟩
  | .typeAlias =>
      ⟨"struct TypeAlias",
        [.required "name" .text, .text "documentation", .required "type" (.record .typeExpr),
          .list "dependencies" .text, .optionalText "since", .optionalText "deprecated"]⟩
  | .interface =>
      ⟨"struct Interface",
        [.required "name" .text, .text "documentation", .list "extends" .text,
          .list "properties" (.record .property), .list "children" (.record .interface),
          .list "dependencies" .text, .optionalText "since", .optionalText "deprecated"]⟩
  | .request =>
      ⟨"struct Request",
        [.required "method" .text, .optionalText "params", .optionalText "result",
          .optionalText "error", .text "documentation"]⟩
  | .notification =>
      ⟨"struct Notification",
        [.required "method" .text, .optionalText "params", .text "documentation"]⟩

/-- The name that stands for a member of a table of names. -/
def nameIn {α : Type} [BEq α] (table : List (α × String)) (value : α) : Data :=
  .text ((table.lookup value).getD "")

/-- The member of a table that a name stands for. -/
def memberIn {α : Type} [Inhabited α] (table : List (α × String)) (data : Data) : α :=
  ((table.find? (·.2 == data.asText)).map Prod.fst).getD default

mutual

/-- The data of a type expression and of its alternatives. -/
def ofTypeExpr : TypeExpr -> Data
  | ⟨kind, value, items, since, deprecated⟩ =>
      .record [nameIn typeKinds kind, .text value, .list (ofTypeExprs items),
        .ofOptionalText since, .ofOptionalText deprecated]

/-- The data of several type expressions. -/
def ofTypeExprs : List TypeExpr -> List Data
  | [] => []
  | type :: types => ofTypeExpr type :: ofTypeExprs types

end

mutual

/-- The type expression that data stands for. -/
def toTypeExpr : Data -> TypeExpr
  | .record [kind, value, .list items, since, deprecated] =>
      { kind := memberIn typeKinds kind, value := value.asText, items := toTypeExprs items,
        since := since.asOptionalText, deprecated := deprecated.asOptionalText }
  | _ => default

/-- The type expressions that several pieces of data stand for. -/
def toTypeExprs : List Data -> List TypeExpr
  | [] => []
  | data :: others => toTypeExpr data :: toTypeExprs others

end

/-- The data of an enumeration value. -/
def ofEnumerationValue (value : EnumerationValue) : Data :=
  .record [.text value.name, .text value.value, .text value.documentation]

/-- The enumeration value that data stands for. -/
def toEnumerationValue (data : Data) : EnumerationValue :=
  { name := (data.field 0).asText, value := (data.field 1).asText,
    documentation := (data.field 2).asText }

/-- The data of an enumeration. -/
def ofEnumeration (enumeration : Enumeration) : Data :=
  .record [.text enumeration.name, .text enumeration.documentation,
    nameIn enumerationKinds enumeration.kind,
    .list (enumeration.values.map ofEnumerationValue), .ofOptionalText enumeration.since,
    .ofOptionalText enumeration.deprecated]

/-- The enumeration that data stands for. -/
def toEnumeration (data : Data) : Enumeration :=
  { name := (data.field 0).asText, documentation := (data.field 1).asText,
    kind := memberIn enumerationKinds (data.field 2),
    values := (data.field 3).asList.map toEnumerationValue,
    since := (data.field 4).asOptionalText, deprecated := (data.field 5).asOptionalText }

/-- The data of a property. -/
def ofProperty (property : Property) : Data :=
  .record [.text property.name, .text property.documentation, ofTypeExpr property.type]

/-- The property that data stands for. -/
def toProperty (data : Data) : Property :=
  { name := (data.field 0).asText, documentation := (data.field 1).asText,
    type := toTypeExpr (data.field 2) }

/-- The data of a set of names: its members in ascending order. -/
def ofNames (names : NameSet) : Data :=
  .ofTexts names.names

/-- The set of the names in a list, which may repeat names and have any order. -/
def toNames (data : Data) : NameSet :=
  .ofList data.asTexts

/-- The data of an alias. -/
def ofAlias (entity : Alias) : Data :=
  .record [.text entity.name, .text entity.documentation, ofTypeExpr entity.type,
    ofNames entity.dependencies, .ofOptionalText entity.since, .ofOptionalText entity.deprecated]

/-- The alias that data stands for. -/
def toAlias (data : Data) : Alias :=
  { name := (data.field 0).asText, documentation := (data.field 1).asText,
    type := toTypeExpr (data.field 2), dependencies := toNames (data.field 3),
    since := (data.field 4).asOptionalText, deprecated := (data.field 5).asOptionalText }

mutual

/-- The data of an interface and of those inside it. -/
def ofInterface : Interface -> Data
  | ⟨name, documentation, bases, properties, children, dependencies, since, deprecated⟩ =>
      .record [.text name, .text documentation, .ofTexts bases,
        .list (properties.map ofProperty), .list (ofInterfaces children),
        ofNames dependencies, .ofOptionalText since, .ofOptionalText deprecated]

/-- The data of several interfaces. -/
def ofInterfaces : List Interface -> List Data
  | [] => []
  | interface :: others => ofInterface interface :: ofInterfaces others

end

mutual

/-- The interface that data stands for. -/
def toInterface : Data -> Interface
  | .record [name, documentation, bases, properties, .list children, dependencies, since,
      deprecated] =>
      { name := name.asText, documentation := documentation.asText, bases := bases.asTexts,
        properties := properties.asList.map toProperty, children := toInterfaces children,
        dependencies := toNames dependencies, since := since.asOptionalText,
        deprecated := deprecated.asOptionalText }
  | _ => default

/-- The interfaces that several pieces of data stand for. -/
def toInterfaces : List Data -> List Interface
  | [] => []
  | data :: others => toInterface data :: toInterfaces others

end

/-- The data of a request. -/
def ofRequest (request : Request) : Data :=
  .record [.text request.method, .ofOptionalText request.params,
    .ofOptionalText request.result, .ofOptionalText request.error, .text request.documentation]

/-- The request that data stands for. -/
def toRequest (data : Data) : Request :=
  { method := (data.field 0).asText, params := (data.field 1).asOptionalText,
    result := (data.field 2).asOptionalText, error := (data.field 3).asOptionalText,
    documentation := (data.field 4).asText }

/-- The data of a notification. -/
def ofNotification (notification : Notification) : Data :=
  .record [.text notification.method, .ofOptionalText notification.params,
    .text notification.documentation]

/-- The notification that data stands for. -/
def toNotification (data : Data) : Notification :=
  { method := (data.field 0).asText, params := (data.field 1).asOptionalText,
    documentation := (data.field 2).asText }

/-- The data of a model. -/
def ofModel (model : Model) : Data :=
  .record [.list (model.enumerations.map ofEnumeration), .list (model.aliases.map ofAlias),
    .list (ofInterfaces model.interfaces), .list (model.requests.map ofRequest),
    .list (model.notifications.map ofNotification)]

/-- The model that data stands for. -/
def toModel (data : Data) : Model :=
  { enumerations := (data.field 0).asList.map toEnumeration,
    aliases := (data.field 1).asList.map toAlias,
    interfaces := toInterfaces (data.field 2).asList,
    requests := (data.field 3).asList.map toRequest,
    notifications := (data.field 4).asList.map toNotification }

end ProtocolHeaders.ModelFormat

namespace ProtocolHeaders

/-- Read a type expression. -/
def TypeExpr.read (text : String) : Except Json.Error TypeExpr := do
  return ModelFormat.toTypeExpr
    (<- Json.read ModelFormat.format (.record .typeExpr) text.toList)

/-- A type expression as a text without spaces. -/
def TypeExpr.write (type : TypeExpr) : String :=
  Json.writeCompact ModelFormat.format (.record .typeExpr) (ModelFormat.ofTypeExpr type)

namespace Model

/-- Read a model file. -/
def read (text : String) : Except Json.Error Model := do
  return ModelFormat.toModel (<- Json.read ModelFormat.format (.record .model) text.toList)

/-- A model as a text without spaces. -/
def write (model : Model) : String :=
  Json.writeCompact ModelFormat.format (.record .model) (ModelFormat.ofModel model)

/-- A model as the text of a model file, one member to a line. -/
def writeFile (model : Model) : String :=
  Json.writePretty ModelFormat.format (.record .model) (ModelFormat.ofModel model)

end Model

end ProtocolHeaders
