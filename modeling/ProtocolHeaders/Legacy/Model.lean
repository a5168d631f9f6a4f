import ProtocolHeaders.Legacy.Comment
import ProtocolHeaders.Model.Basic
import ProtocolHeaders.Text.Letter

/-!
# Legacy models

The models of older protocol versions are flat: a type expression is a plain text, a
literal is told by its single quotes, documentation is a comment block, and an
absent type is an empty text. Every legacy model converts into a model.
-/

namespace ProtocolHeaders.Legacy

/-- A value of a legacy enumeration. -/
structure EnumerationValue where
  name : String
  value : String
  comment : String := ""
deriving Repr, DecidableEq, Inhabited

/-- A legacy enumeration, whose values are strings or integers. -/
structure Enumeration where
  name : String
  comment : String := ""
  isString : Bool := false
  values : List EnumerationValue := []
deriving Repr, DecidableEq, Inhabited

/-- A legacy alias. Its dependencies may come in any order and repeat. -/
structure Alias where
  name : String
  comment : String := ""
  type : String
  dependencies : List String := []
deriving Repr, DecidableEq, Inhabited

/-- A field of a legacy interface. -/
structure Property where
  name : String
  type : String
  comment : String := ""
deriving Repr, DecidableEq, Inhabited

/-- A legacy structure with the structures nested in it. -/
structure Interface where
  name : String
  comment : String := ""
  bases : List String := []
  properties : List Property := []
  children : List Interface := []
  dependencies : List String := []
deriving Repr, Inhabited

/-- The types of a request; an empty text stands for no type. -/
structure Request where
  method : String
  params : String := ""
  result : String := ""
  error : String := ""
deriving Repr, DecidableEq, Inhabited

/-- The type of a notification; an empty text stands for no type. -/
structure Notification where
  method : String
  params : String := ""
deriving Repr, DecidableEq, Inhabited

/-- The entities of a legacy model, in file order. -/
structure Model where
  enumerations : List Enumeration := []
  aliases : List Alias := []
  interfaces : List Interface := []
  requests : List Request := []
  notifications : List Notification := []
deriving Repr, Inhabited

/-- The characters of a plain entity name. -/
def isNameChar (c : Char) : Bool :=
  Text.isAlphanumeric c || c == '_'

/-- A text without the single quotes at its end. -/
def dropFinalQuotes (text : List Char) : List Char :=
  (text.reverse.dropWhile (· == '\'')).reverse

/-- What a type text denotes: a literal when it begins with a single quote, a
reference when it is a plain name, and a type of the target language otherwise. -/
def parseType (text : String) : TypeExpr :=
  match Text.trim text.toList with
  | [] => .base ""
  | first :: others =>
      if first = '\'' then .literal (String.ofList (dropFinalQuotes others))
      else if (first :: others).all isNameChar then .reference (String.ofList (first :: others))
      else .base (String.ofList (first :: others))

/-- The type that a text names, if it names one. -/
def typeText? (text : String) : Option String :=
  if Text.onlyBlanks text.toList then none else some text

/-- The enumeration value that a legacy one describes. -/
def EnumerationValue.convert (value : EnumerationValue) : ProtocolHeaders.EnumerationValue :=
  { name := value.name, value := value.value, documentation := Comment.strip value.comment }

/-- The enumeration that a legacy one describes. Legacy models have no unsigned kind. -/
def Enumeration.convert (enumeration : Enumeration) : ProtocolHeaders.Enumeration :=
  { name := enumeration.name, documentation := Comment.strip enumeration.comment,
    kind := if enumeration.isString then .string else .integer,
    values := enumeration.values.map EnumerationValue.convert }

/-- The alias that a legacy one describes. -/
def Alias.convert (entity : Alias) : ProtocolHeaders.Alias :=
  { name := entity.name, documentation := Comment.strip entity.comment,
    type := parseType entity.type, dependencies := .ofList entity.dependencies }

/-- The property that a legacy one describes. Markers stay in its name. -/
def Property.convert (property : Property) : ProtocolHeaders.Property :=
  { name := property.name, documentation := Comment.strip property.comment,
    type := parseType property.type }

mutual

/-- The interface that a legacy one describes. -/
def Interface.convert : Interface -> ProtocolHeaders.Interface
  | ⟨name, comment, bases, properties, children, dependencies⟩ =>
      { name, documentation := Comment.strip comment, bases,
        properties := properties.map Property.convert,
        children := Interface.convertAll children, dependencies := .ofList dependencies }

/-- The interfaces that several legacy ones describe. -/
def Interface.convertAll : List Interface -> List ProtocolHeaders.Interface
  | [] => []
  | interface :: others => interface.convert :: Interface.convertAll others

end

/-- The request that a legacy one describes. Legacy messages have no documentation. -/
def Request.convert (request : Request) : ProtocolHeaders.Request :=
  { method := request.method, params := typeText? request.params,
    result := typeText? request.result, error := typeText? request.error }

/-- The notification that a legacy one describes. -/
def Notification.convert (notification : Notification) : ProtocolHeaders.Notification :=
  { method := notification.method, params := typeText? notification.params }

/-- The model that a legacy model describes. -/
def Model.convert (model : Model) : ProtocolHeaders.Model :=
  { enumerations := model.enumerations.map Enumeration.convert,
    aliases := model.aliases.map Alias.convert,
    interfaces := Interface.convertAll model.interfaces,
    requests := model.requests.map Request.convert,
    notifications := model.notifications.map Notification.convert }

end ProtocolHeaders.Legacy
