import ProtocolHeaders.Cleanup.Rules
import ProtocolHeaders.File.Path
import ProtocolHeaders.Header.Options
import ProtocolHeaders.Settings.Basic

/-!
# Contexts of runs

A context is what settings come to: every name list is filled in, from the settings or
from the built-in ones.
-/

namespace ProtocolHeaders.Generation

/-- Everything a run needs to know. -/
structure Context where
  modelPath : String
  schema : Schema
  /-- Whether findings are errors. -/
  strict : Bool
  outputDirectory : String
  rules : Cleanup.Rules
  options : Header.Options
deriving Repr, DecidableEq

namespace Context

/-- The set that a name list of the settings stands for, or the built-in one. -/
def namesOr (builtIn : NameSet) (names? : Option (List String)) : NameSet :=
  (names?.map NameSet.ofList).getD builtIn

/-- The context of settings. -/
def ofSettings (settings : Settings) : Context :=
  let builtInRules := Cleanup.Rules.standard
  let builtInOptions : Header.Options := {}
  { modelPath := settings.model.path
    schema := settings.model.schema
    strict := settings.model.strict
    outputDirectory := settings.output.directory
    rules :=
      { enumRenames := settings.rules.enumRenames?.getD builtInRules.enumRenames
        removedInterfaces :=
          namesOr builtInRules.removedInterfaces settings.rules.removedInterfaces?
        removedAliases := namesOr builtInRules.removedAliases settings.rules.removedAliases? }
    options :=
      { builtInOptions with
        namespaceName := settings.output.namespaceName
        declarationsFile := settings.output.declarations
        bindingsFile := settings.output.bindings
        notificationsFile := settings.output.notifications
        requestsFile := settings.output.requests
        builtinAliases := namesOr builtInOptions.builtinAliases settings.rules.builtinAliases?
        forwardDeclared :=
          namesOr builtInOptions.forwardDeclared settings.rules.forwardDeclared? } }

/-- The context of the default settings. -/
def standard : Context := ofSettings {}

/-- The path of an artifact's file. -/
def artifactPath (context : Context) (file : String) : String :=
  Path.join context.outputDirectory file

end Context

end ProtocolHeaders.Generation
