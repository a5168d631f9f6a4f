import ProtocolHeaders.Name.Table

/-!
# Settings

What a configuration file sets: where the model is and how it is read, where the
headers go and what they are called, how much is logged, and the name lists that
differ from the built-in ones. Everything a file leaves out has a default.
-/

namespace ProtocolHeaders

/-- How a model file is written. -/
inductive Schema where
  /-- With structured type expressions. -/
  | current
  /-- With type expressions given as texts. -/
  | legacy
deriving Repr, DecidableEq, Inhabited

/-- The name of a schema in a configuration file. -/
def Schema.name : Schema -> String
  | current => "meta"
  | legacy => "legacy"

/-- The settings about the model. -/
structure ModelSettings where
  path : String := "model.json"
  schema : Schema := .current
  /-- Whether findings are errors. -/
  strict : Bool := false
deriving Repr, DecidableEq, Inhabited

/-- The settings about the headers. -/
structure OutputSettings where
  directory : String := "generated"
  namespaceName : String := "Lsp"
  declarations : String := "types.h"
  bindings : String := "types_json.h"
  notifications : String := "notifications.h"
  requests : String := "requests.h"
deriving Repr, DecidableEq, Inhabited

/-- The settings about logging. -/
structure LogSettings where
  level : String := "info"
deriving Repr, DecidableEq, Inhabited

/-- The name lists that replace built-in ones. -/
structure RuleSettings where
  enumRenames? : Option (NameTable String) := none
  removedInterfaces? : Option (List String) := none
  removedAliases? : Option (List String) := none
  builtinAliases? : Option (List String) := none
  forwardDeclared? : Option (List String) := none
deriving Repr, DecidableEq, Inhabited

/-- All settings. -/
structure Settings where
  model : ModelSettings := {}
  output : OutputSettings := {}
  logging : LogSettings := {}
  rules : RuleSettings := {}
deriving Repr, DecidableEq, Inhabited

end ProtocolHeaders
