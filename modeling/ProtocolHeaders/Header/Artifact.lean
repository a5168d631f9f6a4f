import ProtocolHeaders.Header.Bindings
import ProtocolHeaders.Header.Declarations
import ProtocolHeaders.Header.Messages

/-!
# The artifacts of a run

A run generates four headers. Only the declarations can fail, when there is no
dependency order.
-/

namespace ProtocolHeaders.Header

open Log (Event)

/-- A header that a run generates. -/
inductive Artifact where
  | declarations
  | bindings
  | notifications
  | requests
deriving Repr, DecidableEq

namespace Artifact

/-- The artifacts in the order in which they are generated. -/
def all : List Artifact :=
  [declarations, bindings, notifications, requests]

/-- The name of an artifact's file. -/
def file (options : Options) : Artifact -> String
  | declarations => options.declarationsFile
  | bindings => options.bindingsFile
  | notifications => options.notificationsFile
  | requests => options.requestsFile

/-- The text of an artifact. -/
def render (options : Options) (model : Model) : Artifact -> Except Order.Cycle String
  | declarations => Declarations.render options model
  | bindings => .ok (Bindings.render options model)
  | notifications => .ok (Messages.renderNotifications options model)
  | requests => .ok (Messages.renderRequests options model)

/-- What generating an artifact reports. -/
def events (options : Options) (model : Model) : Artifact -> List Event
  | declarations => Declarations.events options model
  | bindings => Bindings.events options model
  | notifications => Messages.collisions (model.notifications.map Notification.method)
  | requests => Messages.collisions (model.requests.map Request.method)

end Artifact

end ProtocolHeaders.Header
