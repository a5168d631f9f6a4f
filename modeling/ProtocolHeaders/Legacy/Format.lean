import ProtocolHeaders.Json.Reader
import ProtocolHeaders.Json.Writer
import ProtocolHeaders.Legacy.Model

/-!
# The file format of legacy models

The records of a legacy model file. Unlike in a model file, every field is written,
vacant ones included.
-/

namespace ProtocolHeaders.Legacy.Format

open Json (Data Field Shape RecordShape)

/-- The records of a legacy model file. -/
inductive Record where
  | model
  | enumeration
  | enumerationValue
  | typeAlias
  | property
  | interface
  | request
  | notification
deriving Repr, DecidableEq

/-- The fields of each record, in the order in which they are written. -/
def format : Json.Format Record
  | .model =>
      ⟨"struct LegacyModel",
        [.list "enumerations" (.record .enumeration), .list "types" (.record .typeAlias),
          .list "interfaces" (.record .interface), .list "requests" (.record .request),
          .list "notifications" (.record .notification)]⟩
  | .enumeration =>
      ⟨"struct LegacyEnumeration",
        [.required "name" .text, .text "comment", .flag "isString",
          .list "values" (.record .enumerationValue)]⟩
  | .enumerationValue =>
      ⟨"struct LegacyEnumerationValue",
        [.required "name" .text, .required "value" .text, .text "comment"]⟩
  | .typeAlias =>
      ⟨"struct LegacyType",
        [.required "name" .text, .text "comment", .required "dataType" .text,
          .list "dependencies" .text]⟩
  | .property =>
      ⟨"struct LegacyProperty",
        [.required "name" .text, .required "dataType" .text, .text "comment"]⟩
  | .interface =>
      ⟨"struct LegacyInterface",
        [.required "name" .text, .text "comment", .list "extends" .text,
          .list "properties" (.record .property), .list "children" (.record .interface),
          .list "dependencies" .text]⟩
  | .request =>
      ⟨"struct LegacyRequest",
        [.required "method" .text, .text "params", .text "result", .text "error"]⟩
  | .notification =>
      ⟨"struct LegacyNotification", [.required "method" .text, .text "params"]⟩

/-- The data of an enumeration value. -/
def ofEnumerationValue (value : EnumerationValue) : Data :=
  .record [.text value.name, .text value.value, .text value.comment]

/-- The enumeration value that data stands for. -/
def toEnumerationValue (data : Data) : EnumerationValue :=
  { name := (data.field 0).asText, value := (data.field 1).asText,
    comment := (data.field 2).asText }

/-- The data of an enumeration. -/
def ofEnumeration (enumeration : Enumeration) : Data :=
  .record [.text enumeration.name, .text enumeration.comment, .flag enumeration.isString,
    .list (enumeration.values.map ofEnumerationValue)]

/-- The enumeration that data stands for. -/
def toEnumeration (data : Data) : Enumeration :=
  { name := (data.field 0).asText, comment := (data.field 1).asText,
    isString := (data.field 2).asFlag,
    values := (data.field 3).asList.map toEnumerationValue }

/-- The data of an alias. -/
def ofAlias (entity : Alias) : Data :=
  .record [.text entity.name, .text entity.comment, .text entity.type, .ofTexts entity.dependencies]

/-- The alias that data stands for. -/
def toAlias (data : Data) : Alias :=
  { name := (data.field 0).asText, comment := (data.field 1).asText,
    type := (data.field 2).asText, dependencies := (data.field 3).asTexts }

/-- The data of a property. -/
def ofProperty (property : Property) : Data :=
  .record [.text property.name, .text property.type, .text property.comment]

/-- The property that data stands for. -/
def toProperty (data : Data) : Property :=
  { name := (data.field 0).asText, type := (data.field 1).asText,
    comment := (data.field 2).asText }

mutual

/-- The data of an interface and of those inside it. -/
def ofInterface : Interface -> Data
  | ⟨name, comment, bases, properties, children, dependencies⟩ =>
      .record [.text name, .text comment, .ofTexts bases, .list (properties.map ofProperty),
        .list (ofInterfaces children), .ofTexts dependencies]

/-- The data of several interfaces. -/
def ofInterfaces : List Interface -> List Data
  | [] => []
  | interface :: others => ofInterface interface :: ofInterfaces others

end

mutual

/-- The interface that data stands for. -/
def toInterface : Data -> Interface
  | .record [name, comment, bases, properties, .list children, dependencies] =>
      { name := name.asText, comment := comment.asText, bases := bases.asTexts,
        properties := properties.asList.map toProperty, children := toInterfaces children,
        dependencies := dependencies.asTexts }
  | _ => default

/-- The interfaces that several pieces of data stand for. -/
def toInterfaces : List Data -> List Interface
  | [] => []
  | data :: others => toInterface data :: toInterfaces others

end

/-- The data of a request. -/
def ofRequest (request : Request) : Data :=
  .record [.text request.method, .text request.params, .text request.result,
    .text request.error]

/-- The request that data stands for. -/
def toRequest (data : Data) : Request :=
  { method := (data.field 0).asText, params := (data.field 1).asText,
    result := (data.field 2).asText, error := (data.field 3).asText }

/-- The data of a notification. -/
def ofNotification (notification : Notification) : Data :=
  .record [.text notification.method, .text notification.params]

/-- The notification that data stands for. -/
def toNotification (data : Data) : Notification :=
  { method := (data.field 0).asText, params := (data.field 1).asText }

/-- The data of a legacy model. -/
def ofModel (model : Model) : Data :=
  .record [.list (model.enumerations.map ofEnumeration), .list (model.aliases.map ofAlias),
    .list (ofInterfaces model.interfaces), .list (model.requests.map ofRequest),
    .list (model.notifications.map ofNotification)]

/-- The legacy model that data stands for. -/
def toModel (data : Data) : Model :=
  { enumerations := (data.field 0).asList.map toEnumeration,
    aliases := (data.field 1).asList.map toAlias,
    interfaces := toInterfaces (data.field 2).asList,
    requests := (data.field 3).asList.map toRequest,
    notifications := (data.field 4).asList.map toNotification }

end ProtocolHeaders.Legacy.Format

namespace ProtocolHeaders.Legacy.Model

/-- Read a legacy model file. -/
def read (text : String) : Except Json.Error Legacy.Model := do
  return Format.toModel (<- Json.read Format.format (.record .model) text.toList)

/-- A legacy model as a text without spaces. -/
def write (model : Legacy.Model) : String :=
  Json.writeCompact Format.format (.record .model) (Format.ofModel model)

end ProtocolHeaders.Legacy.Model
