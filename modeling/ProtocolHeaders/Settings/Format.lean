import ProtocolHeaders.Settings.Basic
import ProtocolHeaders.Toml.Reader
import ProtocolHeaders.Toml.Writer

/-!
# The format of configuration files

A configuration file has a section for each group of settings. Reading what was
written gives the same settings back.
-/

namespace ProtocolHeaders

namespace Settings

open Toml (Value Table)

/-! ## Reading

A section is a table, or a list of the section's values in the order of its keys. Keys
without a meaning are ignored if every number under them has a value; what is missing
has its default. -/

/-- The entries of a section with the given keys. Values of a list beyond the last key
are dropped. A date or time counts as a table without meaning. -/
def entriesOf? (keys : List String) : Value -> Option Table
  | .table entries =>
      if entries.all fun entry => keys.contains entry.1 || entry.2.isReadable then some entries
      else none
  | .list items => some (keys.zip items)
  | .moment _ => some []
  | _ => none

/-- A setting read by `decode` from a section, or its default. -/
def setting? {α : Type} (given : Table) (key : String) (decode : Value -> Option α)
    (default : α) : Option α :=
  match given.lookup key with
  | some value => decode value
  | none => some default

/-- The text that a value is. -/
def asText? : Value -> Option String
  | .text value => some value
  | _ => none

/-- The flag that a value is. -/
def asFlag? : Value -> Option Bool
  | .flag value => some value
  | _ => none

/-- The list of texts that a value is. -/
def asTexts? : Value -> Option (List String)
  | .list items => items.mapM asText?
  | _ => none

/-- The key under which a date or time is found if a table is expected. -/
def momentKey : String := "$__toml_private_datetime"

/-- The table of texts that a value is. A date or time counts as a table with one entry. -/
def asTextTable? : Value -> Option (NameTable String)
  | .table entries => do
      let texts <- entries.mapM fun (key, value) => do return (key, <- asText? value)
      return .ofList texts
  | .moment written => some (.ofList [(momentKey, written)])
  | _ => none

/-- The schema with a name. -/
def schemaOfName? (name : String) : Option Schema :=
  if name = Schema.current.name then some .current
  else if name = Schema.legacy.name then some .legacy
  else none

/-- A schema is given by its name, or by a table with its name as the only key and
nothing under it. -/
def asSchema? : Value -> Option Schema
  | .text name => schemaOfName? name
  | .table [(name, .table [])] => schemaOfName? name
  | .table [(name, .list [])] => schemaOfName? name
  | _ => none

/-- The settings of the model. -/
def modelOf? (value : Value) : Option ModelSettings := do
  let given <- entriesOf? ["path", "schema", "strict"] value
  return {
    path := <- setting? given "path" asText? "model.json"
    schema := <- setting? given "schema" asSchema? .current
    strict := <- setting? given "strict" asFlag? false }

/-- The settings of the output. -/
def outputOf? (value : Value) : Option OutputSettings := do
  let given <-
    entriesOf? ["dir", "namespace", "declarations", "bindings", "notifications", "requests"] value
  return {
    directory := <- setting? given "dir" asText? "generated"
    namespaceName := <- setting? given "namespace" asText? "Lsp"
    declarations := <- setting? given "declarations" asText? "types.h"
    bindings := <- setting? given "bindings" asText? "types_json.h"
    notifications := <- setting? given "notifications" asText? "notifications.h"
    requests := <- setting? given "requests" asText? "requests.h" }

/-- The settings of the log. -/
def loggingOf? (value : Value) : Option LogSettings := do
  let given <- entriesOf? ["level"] value
  return { level := <- setting? given "level" asText? "info" }

/-- The settings of the rules. A rule that is not given has no value here. -/
def rulesOf? (value : Value) : Option RuleSettings := do
  let given <-
    entriesOf?
      ["enum_renames", "removed_interfaces", "removed_type_aliases", "builtin_aliases",
        "forward_declared"]
      value
  let texts? (value : Value) : Option (Option (List String)) := (asTexts? value).map some
  return {
    enumRenames? :=
      <- setting? given "enum_renames" (fun value => (asTextTable? value).map some) none
    removedInterfaces? := <- setting? given "removed_interfaces" texts? none
    removedAliases? := <- setting? given "removed_type_aliases" texts? none
    builtinAliases? := <- setting? given "builtin_aliases" texts? none
    forwardDeclared? := <- setting? given "forward_declared" texts? none }

/-- The settings that a table holds. -/
def ofTable? (table : Table) : Option Settings := do
  let given <- entriesOf? ["model", "output", "logging", "rules"] (.table table)
  return {
    model := <- setting? given "model" modelOf? {}
    output := <- setting? given "output" outputOf? {}
    logging := <- setting? given "logging" loggingOf? {}
    rules := <- setting? given "rules" rulesOf? {} }

/-- Read a configuration file. -/
def read? (text : String) : Option Settings :=
  (Toml.read? text).bind ofTable?

/-! ## Writing -/

/-- The line of a text. -/
def textLine (key value : String) : List Char :=
  Toml.writeAssignment key (Toml.writeText value.toList)

/-- The line of a flag. -/
def flagLine (key : String) (value : Bool) : List Char :=
  Toml.writeAssignment key (if value then "true" else "false").toList

/-- The line of a list of texts, unless it is absent. -/
def textsLine (key : String) (value? : Option (List String)) : List Char :=
  match value? with
  | some items => Toml.writeAssignment key (Toml.writeTexts items)
  | none => []

/-- The section of the rules: the lists that are given, then the renames in a table of
their own. The header of the section is left out if the renames are all there is. -/
def writeRules (rules : RuleSettings) : List Char :=
  let lists :=
    textsLine "removed_interfaces" rules.removedInterfaces? ++
      textsLine "removed_type_aliases" rules.removedAliases? ++
      textsLine "builtin_aliases" rules.builtinAliases? ++
      textsLine "forward_declared" rules.forwardDeclared?
  match rules.enumRenames? with
  | none => Toml.writeHeader ["rules"] ++ lists
  | some renames =>
      let renameLines :=
        Toml.writeHeader ["rules", "enum_renames"] ++
          renames.entries.flatMap fun (oldName, newName) => textLine oldName newName
      if lists.isEmpty then renameLines
      else Toml.writeHeader ["rules"] ++ lists ++ ['\n'] ++ renameLines

/-- The characters of a configuration file: its sections, set off by blank lines. -/
def writeChars (settings : Settings) : List Char :=
  Toml.writeHeader ["model"] ++
    textLine "path" settings.model.path ++
    textLine "schema" settings.model.schema.name ++
    flagLine "strict" settings.model.strict ++ ['\n'] ++
  Toml.writeHeader ["output"] ++
    textLine "dir" settings.output.directory ++
    textLine "namespace" settings.output.namespaceName ++
    textLine "declarations" settings.output.declarations ++
    textLine "bindings" settings.output.bindings ++
    textLine "notifications" settings.output.notifications ++
    textLine "requests" settings.output.requests ++ ['\n'] ++
  Toml.writeHeader ["logging"] ++
    textLine "level" settings.logging.level ++ ['\n'] ++
  writeRules settings.rules

/-- The settings as a configuration file. -/
def write (settings : Settings) : String :=
  String.ofList settings.writeChars

end Settings

end ProtocolHeaders
