import ProtocolHeaders.Name.Table

/-!
# Cleanup rules

The rules name the enumerations that a cleanup renames and the entities that it
removes because the generated code has them from elsewhere.
-/

namespace ProtocolHeaders.Cleanup

/-- What a cleanup renames and removes. -/
structure Rules where
  /-- New names of enumerations, by their old names. -/
  enumRenames : NameTable String
  removedInterfaces : NameSet
  removedAliases : NameSet
deriving Repr, DecidableEq

/-- The rules that apply when none are given. -/
def Rules.standard : Rules :=
  { enumRenames := ⟨[("InitializeError", "InitializeErrorCodes")], by decide⟩
    removedInterfaces :=
      .ofList ["Message", "RequestMessage", "ResponseMessage", "ResponseError",
        "NotificationMessage", "LSPObject", "T"]
    removedAliases := .ofList ["LSPAny"] }

instance : Inhabited Rules := ⟨.standard⟩

end ProtocolHeaders.Cleanup
