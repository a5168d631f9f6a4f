import Mathlib.Data.Option.Basic
import ProtocolHeaders.Settings.Format

/-!
# Layers of settings

Each setting is chosen on its own: an override counts most, then what the configuration file
says in the section and under the key of the setting, and the default is left for what neither
of them gives. Settings that are read from a file are chosen so without any override.
-/

namespace ProtocolHeaders.Settings

open Toml (Value Table)

/-! ## What a file says -/

/-- What a section says under a key. A section may be a table, or a list of values in the order
of the section's keys. -/
def valueIn? (keys : List String) (key : String) : (group : Value) -> Option Value
  | .table entries => entries.lookup key
  | .list items => (keys.zip items).lookup key
  | _ => none

/-- A section of configuration files, with its keys in their order. -/
structure Group where
  name : String
  keys : List String

namespace Group

/-- The settings of the model. -/
def model : Group := ⟨"model", ["path", "schema", "strict"]⟩

/-- The settings of the output. -/
def output : Group :=
  ⟨"output", ["dir", "namespace", "declarations", "bindings", "notifications", "requests"]⟩

/-- The settings of the log. -/
def logging : Group := ⟨"logging", ["level"]⟩

/-- The settings of the cleanup. -/
def rules : Group :=
  ⟨"rules",
    ["enum_renames", "removed_interfaces", "removed_type_aliases", "builtin_aliases",
      "forward_declared"]⟩

/-- What a document says in a section under a key. -/
def valueAt? (group : Group) (key : String) (document : Table) : Option Value :=
  (document.lookup group.name).bind (valueIn? group.keys key)

end Group

/-! ## The choice of a setting -/

/-- A value is chosen: the override if there is one, else what the file gives, which must then
be a value of the setting, else the default. -/
def IsChosen {α : Type} (override? : Option α) (given? : Option Value)
    (decode : Value -> Option α) (default value : α) : Prop :=
  ∃ file? : Option α, given?.map decode = file?.map some ∧
    value = (override?.or file?).getD default

/-- Values that count more than those of a file. -/
structure Overrides where
  path? : Option String := none
  schema? : Option Schema := none
  strict? : Option Bool := none
  directory? : Option String := none
  namespaceName? : Option String := none
  level? : Option String := none

/-- The settings that nothing is said about. -/
def defaults : Settings := {}

/-- A list of texts, as a rule that is given. -/
def asGivenTexts? (value : Value) : Option (Option (List String)) :=
  (asTexts? value).map some

/-- Every setting is chosen by itself from overrides, the document of a configuration file and
the defaults. -/
structure IsLayered (overrides : Overrides) (document : Table) (settings : Settings) : Prop where
  path : IsChosen overrides.path? (Group.model.valueAt? "path" document) asText?
    defaults.model.path settings.model.path
  schema : IsChosen overrides.schema? (Group.model.valueAt? "schema" document) asSchema?
    defaults.model.schema settings.model.schema
  strict : IsChosen overrides.strict? (Group.model.valueAt? "strict" document) asFlag?
    defaults.model.strict settings.model.strict
  directory : IsChosen overrides.directory? (Group.output.valueAt? "dir" document) asText?
    defaults.output.directory settings.output.directory
  namespaceName : IsChosen overrides.namespaceName? (Group.output.valueAt? "namespace" document)
    asText? defaults.output.namespaceName settings.output.namespaceName
  declarations : IsChosen none (Group.output.valueAt? "declarations" document) asText?
    defaults.output.declarations settings.output.declarations
  bindings : IsChosen none (Group.output.valueAt? "bindings" document) asText?
    defaults.output.bindings settings.output.bindings
  notifications : IsChosen none (Group.output.valueAt? "notifications" document) asText?
    defaults.output.notifications settings.output.notifications
  requests : IsChosen none (Group.output.valueAt? "requests" document) asText?
    defaults.output.requests settings.output.requests
  level : IsChosen overrides.level? (Group.logging.valueAt? "level" document) asText?
    defaults.logging.level settings.logging.level
  enumRenames : IsChosen none (Group.rules.valueAt? "enum_renames" document)
    (fun value => (asTextTable? value).map some)
    defaults.rules.enumRenames? settings.rules.enumRenames?
  removedInterfaces : IsChosen none (Group.rules.valueAt? "removed_interfaces" document)
    asGivenTexts? defaults.rules.removedInterfaces? settings.rules.removedInterfaces?
  removedAliases : IsChosen none (Group.rules.valueAt? "removed_type_aliases" document)
    asGivenTexts? defaults.rules.removedAliases? settings.rules.removedAliases?
  builtinAliases : IsChosen none (Group.rules.valueAt? "builtin_aliases" document)
    asGivenTexts? defaults.rules.builtinAliases? settings.rules.builtinAliases?
  forwardDeclared : IsChosen none (Group.rules.valueAt? "forward_declared" document)
    asGivenTexts? defaults.rules.forwardDeclared? settings.rules.forwardDeclared?

section

variable {α : Type} {override? : Option α} {given? : Option Value} {decode : Value -> Option α}
  {default value other : α}

/-- What is chosen is determined. -/
theorem IsChosen.unique (isChosen : IsChosen override? given? decode default value)
    (alsoChosen : IsChosen override? given? decode default other) : value = other := by
  obtain ⟨file?, gives, rfl⟩ := isChosen
  obtain ⟨otherFile?, alsoGives, rfl⟩ := alsoChosen
  have same : file? = otherFile? :=
    Option.map_injective (Option.some_injective α) (gives.symm.trans alsoGives)
  rw [same]

/-- An override replaces what was chosen without it. -/
theorem IsChosen.override (isChosen : IsChosen none given? decode default value)
    (override? : Option α) :
    IsChosen override? given? decode default (override?.getD value) := by
  obtain ⟨file?, gives, rfl⟩ := isChosen
  refine ⟨file?, gives, ?_⟩
  cases override? with
  | none => rfl
  | some value => rfl

end

/-- Settings that leave no choice are the same. -/
theorem IsLayered.unique {overrides : Overrides} {document : Table} {settings other : Settings}
    (layered : IsLayered overrides document settings)
    (alsoLayered : IsLayered overrides document other) : settings = other := by
  obtain ⟨⟨_, _, _⟩, ⟨_, _, _, _, _, _⟩, ⟨_⟩, ⟨_, _, _, _, _⟩⟩ := settings
  obtain ⟨⟨_, _, _⟩, ⟨_, _, _, _, _, _⟩, ⟨_⟩, ⟨_, _, _, _, _⟩⟩ := other
  obtain rfl := layered.path.unique alsoLayered.path
  obtain rfl := layered.schema.unique alsoLayered.schema
  obtain rfl := layered.strict.unique alsoLayered.strict
  obtain rfl := layered.directory.unique alsoLayered.directory
  obtain rfl := layered.namespaceName.unique alsoLayered.namespaceName
  obtain rfl := layered.declarations.unique alsoLayered.declarations
  obtain rfl := layered.bindings.unique alsoLayered.bindings
  obtain rfl := layered.notifications.unique alsoLayered.notifications
  obtain rfl := layered.requests.unique alsoLayered.requests
  obtain rfl := layered.level.unique alsoLayered.level
  obtain rfl := layered.enumRenames.unique alsoLayered.enumRenames
  obtain rfl := layered.removedInterfaces.unique alsoLayered.removedInterfaces
  obtain rfl := layered.removedAliases.unique alsoLayered.removedAliases
  obtain rfl := layered.builtinAliases.unique alsoLayered.builtinAliases
  obtain rfl := layered.forwardDeclared.unique alsoLayered.forwardDeclared
  rfl

/-! ## Settings that are read -/

/-- An entry of a group is found as its value. -/
theorem lookup_of_entriesOf? {keys : List String} {group : Value} {given : Table}
    (entries : entriesOf? keys group = some given) (key : String) :
    given.lookup key = valueIn? keys key group := by
  cases group with
  | table =>
      rw [entriesOf?] at entries
      split at entries
      · cases entries
        rfl
      · cases entries
  | list =>
      cases entries
      rfl
  | moment =>
      cases entries
      rfl
  | _ => cases entries

/-- A setting is read exactly if it is chosen without an override. -/
theorem setting?_eq_some_iff {α : Type} {given : Table} {key : String}
    {decode : Value -> Option α} {default value : α} :
    setting? given key decode default = some value ↔
      IsChosen none (given.lookup key) decode default value := by
  rw [setting?, IsChosen]
  cases given.lookup key with
  | none =>
      constructor
      · rintro ⟨⟩
        exact ⟨none, rfl, rfl⟩
      · rintro ⟨file?, gives, rfl⟩
        cases file? with
        | none => rfl
        | some value => cases gives
  | some written =>
      constructor
      · intro read
        exact ⟨some value, congrArg some read, rfl⟩
      · rintro ⟨file?, gives, rfl⟩
        cases file? with
        | none => cases gives
        | some value => exact Option.some.inj gives

/-- A section that is missing is as good as one without entries. -/
theorem setting?_group {σ : Type} {document : Table} {name : String} {read? : Value -> Option σ}
    {default : σ} (blank : read? (.table []) = some default) :
    setting? document name read? default =
      read? ((document.lookup name).getD (.table [])) := by
  rw [setting?]
  cases document.lookup name with
  | none => exact blank.symm
  | some group => rfl

/-- A setting that is read from the entries of a section is chosen from what the document says. -/
theorem isChosen_of_setting? {α : Type} {group : Group} {document given : Table} {key : String}
    {decode : Value -> Option α} {default value : α}
    (entries : entriesOf? group.keys ((document.lookup group.name).getD (.table [])) = some given)
    (read : setting? given key decode default = some value) :
    IsChosen none (group.valueAt? key document) decode default value := by
  have said : group.valueAt? key document = given.lookup key := by
    rw [lookup_of_entriesOf? entries, Group.valueAt?]
    cases document.lookup group.name with
    | none => rfl
    | some value => rfl
  rw [said]
  exact setting?_eq_some_iff.mp read

/-- Settings that are read from a document are layered, without overrides. -/
theorem isLayered_of_ofTable? {document : Table} {settings : Settings}
    (read : ofTable? document = some settings) : IsLayered {} document settings := by
  simp only [ofTable?, Option.bind_eq_bind, Option.bind_eq_some_iff, Option.pure_def,
    Option.some.injEq] at read
  obtain ⟨given, entries, model, isModel, output, isOutput, logging, isLogging, rules, isRules,
    rfl⟩ := read
  obtain rfl : document = given := by
    rw [entriesOf?] at entries
    split at entries
    · exact Option.some.inj entries
    · cases entries
  rw [setting?_group (rfl : modelOf? (.table []) = some {})] at isModel
  rw [setting?_group (rfl : outputOf? (.table []) = some {})] at isOutput
  rw [setting?_group (rfl : loggingOf? (.table []) = some {})] at isLogging
  rw [setting?_group (rfl : rulesOf? (.table []) = some {})] at isRules
  simp only [modelOf?, outputOf?, loggingOf?, rulesOf?, Option.bind_eq_bind,
    Option.bind_eq_some_iff, Option.pure_def, Option.some.injEq]
    at isModel isOutput isLogging isRules
  obtain ⟨modelGiven, modelEntries, path, isPath, schema, isSchema, strict, isStrict, rfl⟩ :=
    isModel
  obtain ⟨outputGiven, outputEntries, directory, isDirectory, namespaceName, isNamespace,
    declarations, isDeclarations, bindings, isBindings, notifications, isNotifications,
    requests, isRequests, rfl⟩ := isOutput
  obtain ⟨loggingGiven, loggingEntries, level, isLevel, rfl⟩ := isLogging
  obtain ⟨rulesGiven, rulesEntries, renames, isRenames, interfaces, isInterfaces, aliases,
    isAliases, builtins, isBuiltins, forwards, isForwards, rfl⟩ := isRules
  exact {
    path := isChosen_of_setting? modelEntries isPath
    schema := isChosen_of_setting? modelEntries isSchema
    strict := isChosen_of_setting? modelEntries isStrict
    directory := isChosen_of_setting? outputEntries isDirectory
    namespaceName := isChosen_of_setting? outputEntries isNamespace
    declarations := isChosen_of_setting? outputEntries isDeclarations
    bindings := isChosen_of_setting? outputEntries isBindings
    notifications := isChosen_of_setting? outputEntries isNotifications
    requests := isChosen_of_setting? outputEntries isRequests
    level := isChosen_of_setting? loggingEntries isLevel
    enumRenames := isChosen_of_setting? rulesEntries isRenames
    removedInterfaces := isChosen_of_setting? rulesEntries isInterfaces
    removedAliases := isChosen_of_setting? rulesEntries isAliases
    builtinAliases := isChosen_of_setting? rulesEntries isBuiltins
    forwardDeclared := isChosen_of_setting? rulesEntries isForwards }

end ProtocolHeaders.Settings
