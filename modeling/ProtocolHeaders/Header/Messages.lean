import ProtocolHeaders.Header.Source
import ProtocolHeaders.Log.Event
import ProtocolHeaders.Model.Basic
import ProtocolHeaders.Name.First
import ProtocolHeaders.Text.Uppercase

/-!
# The headers of messages

Each notification and each request gets a constant with its method and a structure
that wraps its types. Both are named by an identifier derived from the method;
methods with one identifier are reported.
-/

namespace ProtocolHeaders.Header.Messages

open Log (Event)

/-- The first segments of methods that do not show in identifiers. -/
def silentSegments : List String :=
  ["$", "window", "client", "textDocument"]

/-- The segments of a method that show in its identifier. -/
def identifierSegments (method : List Char) : List (List Char) :=
  match Text.splitOn '/' method with
  | first :: second :: others =>
      if silentSegments.contains (String.ofList first) then second :: others
      else first :: second :: others
  | segments => segments

/-- The identifier of a method: its segments, capitalized and put together. -/
def identifier (method : String) : String :=
  String.ofList ((identifierSegments method.toList).flatMap Text.capitalizeChars)

/-- The type that stands for an absent one. -/
def nullType : String := "std::nullptr_t"

/-- The name of the constant with the method of a message. -/
def constantName (method : String) : String :=
  identifier method ++ "Name"

/-- The constant with the method of a message. -/
def methodConstant (method : String) : String :=
  "\ninline constexpr char " ++ constantName method ++ "[] = " ++ quote method ++ ";\n"

/-- The structure that wraps a message. -/
def wrapper (name base : String) (arguments : List String) : String :=
  "struct " ++ name ++ " : public " ++ base ++ "<" ++ String.intercalate ", " arguments ++
    ">\n\x7b\x7d;\n"

/-- The block of a notification. -/
def notificationBlock (notification : Notification) : String :=
  methodConstant notification.method ++
    wrapper (identifier notification.method ++ "Notification") "NotificationMessage"
      [constantName notification.method, notification.params.getD nullType]

/-- The block of a request. -/
def requestBlock (request : Request) : String :=
  methodConstant request.method ++
    wrapper (identifier request.method ++ "Request") "RequestMessage"
      [constantName request.method, request.params.getD nullType,
        request.result.getD nullType, request.error.getD nullType]

/-- The header of notifications. -/
def renderNotifications (options : Options) (model : Model) : String :=
  source options ["\"notificationmessage.h\"", localInclude options.declarationsFile]
    (String.join (model.notifications.map notificationBlock))

/-- The header of requests. -/
def renderRequests (options : Options) (model : Model) : String :=
  source options ["\"requestmessage.h\"", localInclude options.declarationsFile]
    (String.join (model.requests.map requestBlock))

/-- The methods whose identifier an earlier method has, each with the earliest such
method. -/
def collisions (methods : List String) : List Event :=
  (Name.repeats identifier methods).filterMap fun method =>
    (methods.find? fun earlier => identifier earlier == identifier method).map fun first =>
      .methodCollision first method (identifier method)

end ProtocolHeaders.Header.Messages
