import ProtocolHeaders.Version

/-!
# When an entity came and whether it should go

Enumerations, aliases, interfaces and type expressions may carry the version tag
at which they were introduced and a deprecation message.
-/

namespace ProtocolHeaders

/-- Things that carry a version tag and a deprecation message. -/
class Dated (α : Type) where
  since : α -> Option String
  deprecated : α -> Option String

namespace Dated

variable {α : Type} [Dated α]

/-- Deprecation is the presence of a message, even of an empty one. -/
def isDeprecated (entity : α) : Bool :=
  (deprecated entity).isSome

/-- The version of introduction. A tag that is no version counts as absent. -/
def sinceVersion? (entity : α) : Option Version :=
  (since entity).bind fun tag => (Version.parse tag).toOption

end Dated

end ProtocolHeaders
