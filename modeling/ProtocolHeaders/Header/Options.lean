import ProtocolHeaders.Name.Set

/-!
# Options of the generated headers

What all generated headers of a run share: their namespace, their file names, the
digest of the model, and the names that get special treatment.
-/

namespace ProtocolHeaders.Header

/-- Options of the generated headers. -/
structure Options where
  namespaceName : String := "Lsp"
  declarationsFile : String := "types.h"
  bindingsFile : String := "types_json.h"
  notificationsFile : String := "notifications.h"
  requestsFile : String := "requests.h"
  /-- The digest of the model, shown in the banner of each header. -/
  checksum? : Option String := none
  /-- Aliases that the target provides, so that they are not declared. -/
  builtinAliases : NameSet := .ofList ["integer", "uinteger", "decimal"]
  /-- Structures whose bindings are only announced. -/
  forwardDeclared : NameSet :=
    .ofList ["SelectionRange", "FormattingOptions", "ChangeAnnotationsType"]
deriving Repr, DecidableEq, Inhabited

end ProtocolHeaders.Header
