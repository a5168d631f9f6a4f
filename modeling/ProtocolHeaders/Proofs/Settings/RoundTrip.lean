import ProtocolHeaders.Proofs.File.Writing
import ProtocolHeaders.Proofs.Generation.Run
import ProtocolHeaders.Proofs.Toml.Tables
import ProtocolHeaders.Settings.File

/-!
# Settings are loaded as they were saved

A configuration file shows every setting, and each list of names exactly if it is given. So
what is loaded from a saved file are the settings that were saved, with absent lists apart from
empty ones, whatever characters their texts hold.
-/

namespace ProtocolHeaders.Settings

open Toml (Builds Document Entry Field IsBare IsHeaderPath Table TopTable Value)

/-! ## The tables of a file -/

/-- The fields of the table of the model. -/
def modelFields (settings : ModelSettings) : List Field :=
  [.text "path" settings.path, .text "schema" settings.schema.name, .flag "strict" settings.strict]

/-- The fields of the table of the output. -/
def outputFields (settings : OutputSettings) : List Field :=
  [.text "dir" settings.directory, .text "namespace" settings.namespaceName,
    .text "declarations" settings.declarations, .text "bindings" settings.bindings,
    .text "notifications" settings.notifications, .text "requests" settings.requests]

/-- The fields of the table of the log. -/
def logFields (settings : LogSettings) : List Field :=
  [.text "level" settings.level]

/-- The field of a list of texts, unless it is absent. -/
def listField (key : String) (value? : Option (List String)) : List Field :=
  value?.toList.map (.texts key)

/-- The lists among the fields of the rules; what is not set has none. -/
def listFields (rules : RuleSettings) : List Field :=
  listField "removed_interfaces" rules.removedInterfaces? ++
    listField "removed_type_aliases" rules.removedAliases? ++
    listField "builtin_aliases" rules.builtinAliases? ++
    listField "forward_declared" rules.forwardDeclared?

/-- The fields of a table of new names. -/
def renameFields (renames : NameTable String) : List Field :=
  renames.entries.map fun entry => .text entry.1 entry.2

/-- What a document holds for the rules: the lists that are given, then the renames. -/
def ruleEntries (rules : RuleSettings) : List (String × Entry) :=
  (listFields rules).map Field.held ++
    rules.enumRenames?.toList.map fun renames =>
      ("enum_renames", .table .header ((renameFields renames).map Field.held))

/-- Fields are written one behind the other. -/
theorem lines_append (first second : List Field) :
    Field.lines (first ++ second) = Field.lines first ++ Field.lines second :=
  List.flatMap_append

/-- A list that is not set leaves no line. -/
theorem lines_listField (key : String) (value? : Option (List String)) :
    Field.lines (listField key value?) = textsLine key value? := by
  cases value? with
  | none => rfl
  | some items => exact List.append_nil _

/-- Each new name has a line of its own. -/
theorem lines_renameFields (renames : NameTable String) :
    Field.lines (renameFields renames) =
      renames.entries.flatMap fun (oldName, newName) => textLine oldName newName := by
  rw [Field.lines, renameFields, List.flatMap_map]
  rfl

/-- No line is empty, so the lists are only left out if there are none. -/
theorem lines_eq_nil_iff {fields : List Field} : Field.lines fields = [] ↔ fields = [] := by
  cases fields with
  | nil => exact ⟨fun _ => rfl, fun _ => rfl⟩
  | cons field others =>
      refine ⟨fun empty => ?_, nofun⟩
      have length := Toml.length_writeAssignment field.key field.written
      have none : Toml.writeAssignment field.key field.written = [] :=
        (List.append_eq_nil_iff.mp empty).1
      rw [none, List.length_nil] at length
      omega

/-- The section of the rules in terms of its fields. -/
theorem writeRules_eq (rules : RuleSettings) :
    writeRules rules =
      match rules.enumRenames? with
      | none => Toml.writeHeader ["rules"] ++ Field.lines (listFields rules)
      | some renames =>
          let renameTable :=
            Toml.writeHeader ["rules", "enum_renames"] ++ Field.lines (renameFields renames)
          if listFields rules = [] then renameTable
          else
            Toml.writeHeader ["rules"] ++ Field.lines (listFields rules) ++ ['\n'] ++
              renameTable := by
  have lists : Field.lines (listFields rules) =
      textsLine "removed_interfaces" rules.removedInterfaces? ++
        textsLine "removed_type_aliases" rules.removedAliases? ++
        textsLine "builtin_aliases" rules.builtinAliases? ++
        textsLine "forward_declared" rules.forwardDeclared? := by
    simp only [listFields, lines_append, lines_listField]
  rw [writeRules, ← lists]
  cases rules.enumRenames? with
  | none => rfl
  | some renames => simp only [← lines_renameFields, List.isEmpty_iff, lines_eq_nil_iff]

/-- The sections that are always written with a header of their own. -/
def sections (settings : Settings) : List TopTable :=
  [⟨"model", modelFields settings.model, by decide,
      (by decide : ["path", "schema", "strict"].Nodup)⟩,
    ⟨"output", outputFields settings.output, by decide,
      (by decide :
        ["dir", "namespace", "declarations", "bindings", "notifications", "requests"].Nodup)⟩,
    ⟨"logging", logFields settings.logging, by decide, (by decide : ["level"].Nodup)⟩]

/-- Settings are written section by section, and the rules last. -/
theorem writeChars_eq (settings : Settings) :
    settings.writeChars =
      settings.sections.flatMap TopTable.text ++ writeRules settings.rules := by
  simp [writeChars, sections, TopTable.text, Field.lines, modelFields, outputFields, logFields,
    Field.text, Field.flag, textLine, flagLine, Toml.writeFlag]

/-! ## The document of a file -/

/-- No key of a list stands in the rules twice, and none is the key of the renames. -/
theorem keys_listFields_sublist (rules : RuleSettings) :
    ((listFields rules).map Field.key).Sublist
      ["removed_interfaces", "removed_type_aliases", "builtin_aliases", "forward_declared"] := by
  have optional (key : String) (value? : Option (List String)) :
      ((listField key value?).map Field.key).Sublist [key] := by
    cases value? with
    | none => exact List.nil_sublist _
    | some items => exact List.Sublist.refl _
  simp only [listFields, List.map_append]
  exact (((optional _ _).append (optional _ _)).append (optional _ _)).append (optional _ _)

/-- New names stand under the old ones. -/
theorem keys_renameFields (renames : NameTable String) :
    (renameFields renames).map Field.key = renames.keys := by
  rw [renameFields, List.map_map]
  rfl

/-- The section of the rules adds a table with what they hold, whether its own header opens it
or the header of the renames. -/
theorem builds_writeRules (rules : RuleSettings) {earlier : List (String × Entry)}
    (fresh : Entry.IsFresh "rules" earlier) (opened : List String) :
    ∃ origin path,
      Builds (writeRules rules) { entries := earlier, path := opened }
        { entries := earlier ++ [("rules", .table origin (ruleEntries rules))], path } := by
  have keys := keys_listFields_sublist rules
  have distinct : ((listFields rules).map Field.key).Nodup := keys.nodup (by decide)
  have lists := Toml.builds_topTable (by decide) fresh opened distinct
  rw [writeRules_eq, ruleEntries]
  cases rules.enumRenames? with
  | none =>
      rw [Option.toList_none, List.map_nil, List.append_nil]
      exact ⟨.header, ["rules"], lists⟩
  | some renames =>
      have isPath : IsHeaderPath ["rules", "enum_renames"] :=
        ⟨List.cons_ne_nil _ _, by decide, (by decide : 2 ≤ Toml.nestingLimit)⟩
      have renamesDistinct : ((renameFields renames).map Field.key).Nodup := by
        rw [keys_renameFields]
        exact NameSet.nodup_of_ascending renames.ascending
      have renamesFresh :
          Entry.IsFresh "enum_renames" ((listFields rules).map Field.held) := by
        intro member
        rw [List.map_map] at member
        exact absurd (keys.subset member) (by decide)
      dsimp only
      -- Without lists, the table of the rules is only made on the way to the renames.
      split_ifs with empty
      · refine ⟨.implied, ["rules", "enum_renames"], ?_⟩
        rw [empty]
        have isPlace := (Entry.isPlace_last fresh .implied).append
          (@Entry.isPlace_last "enum_renames" [] List.not_mem_nil .header)
        exact Toml.builds_table isPlace isPath
          (Document.openTable_of_fresh_way fresh "enum_renames" opened) renamesDistinct
      · refine ⟨.header, ["rules", "enum_renames"], ?_⟩
        have isRules := Entry.isPlace_last fresh .header
        have isPlace := isRules.append (Entry.isPlace_last renamesFresh .header)
        exact (lists.append (Toml.builds_blank _)).append
          (Toml.builds_table isPlace isPath
            (Document.openTable_of_fresh isRules renamesFresh ["rules"]) renamesDistinct)

/-- The value of a list of texts. -/
def textsValue (items : List String) : Value :=
  .list (items.map .text)

/-- The value of the renames. -/
def renamesValue (renames : NameTable String) : Value :=
  .table ((renameFields renames).map Field.entry)

/-- The entry of a value under a key, unless the value is absent. -/
def optionalEntry {α : Type} (key : String) (toValue : α -> Value) (value? : Option α) : Table :=
  value?.toList.map fun value => (key, toValue value)

/-- What the table of the rules holds. -/
def ruleTable (rules : RuleSettings) : Table :=
  optionalEntry "removed_interfaces" textsValue rules.removedInterfaces? ++
    optionalEntry "removed_type_aliases" textsValue rules.removedAliases? ++
    optionalEntry "builtin_aliases" textsValue rules.builtinAliases? ++
    optionalEntry "forward_declared" textsValue rules.forwardDeclared? ++
    optionalEntry "enum_renames" renamesValue rules.enumRenames?

/-- A list that is not set leaves no entry. -/
theorem entry_listField (key : String) (value? : Option (List String)) :
    (listField key value?).map Field.entry = optionalEntry key textsValue value? := by
  rw [listField, List.map_map]
  rfl

/-- The entries of the rules make up their table. -/
theorem toTable_ruleEntries (rules : RuleSettings) :
    Entry.toTable (ruleEntries rules) = ruleTable rules := by
  have renames : Entry.toTable (rules.enumRenames?.toList.map fun renames =>
      ("enum_renames", .table .header ((renameFields renames).map Field.held))) =
      optionalEntry "enum_renames" renamesValue rules.enumRenames? := by
    cases rules.enumRenames? with
    | none => rfl
    | some renames =>
        change [("enum_renames", Value.table (Entry.toTable _))] = _
        rw [Toml.toTable_held]
        rfl
  rw [ruleEntries, ruleTable, Toml.toTable_append, Toml.toTable_held, renames]
  simp only [listFields, List.map_append, entry_listField]

/-- A file is read as the tables of its sections. -/
theorem toml_read?_write (settings : Settings) :
    Toml.read? settings.write =
      some
        (settings.sections.map TopTable.entry ++
          [("rules", .table (ruleTable settings.rules))]) := by
  have distinct : (["model", "output", "logging"] : List String).Nodup := by decide
  obtain ⟨path, front⟩ :=
    @Toml.builds_topTables settings.sections [] distinct []
  have fresh : Entry.IsFresh "rules" (settings.sections.map TopTable.held) :=
    (by decide : "rules" ∉ ["model", "output", "logging"])
  obtain ⟨origin, rulesPath, back⟩ := builds_writeRules settings.rules fresh path
  have builds := front.append back
  rw [← writeChars_eq] at builds
  rw [write, Toml.read?_of_builds builds]
  · rw [Document.toTable, Toml.toTable_append, Toml.toTable_topTables, ← toTable_ruleEntries]
    rfl
  · intro others same
    rw [writeChars] at same
    simp only [Toml.writeHeader, List.cons_append] at same
    exact absurd (List.cons.inj same).1 (by decide)

/-! ## Decoding -/

/-- The settings of the model are read from their fields. -/
theorem modelOf?_fields (settings : ModelSettings) :
    modelOf? (.table ((modelFields settings).map Field.entry)) = some settings := by
  obtain ⟨path, schema, strict⟩ := settings
  cases schema with
  | current => rfl
  | legacy => rfl

/-- The settings of the output are read from their fields. -/
theorem outputOf?_fields (settings : OutputSettings) :
    outputOf? (.table ((outputFields settings).map Field.entry)) = some settings := rfl

/-- The settings of the log are read from their fields. -/
theorem loggingOf?_fields (settings : LogSettings) :
    loggingOf? (.table ((logFields settings).map Field.entry)) = some settings := rfl

/-- Items that are decoded one by one are decoded as a list. -/
theorem mapM_map_eq_some {α β : Type} {toValue : α -> β} {decode : β -> Option α}
    (decodes : ∀ item, decode (toValue item) = some item) (items : List α) :
    (items.map toValue).mapM decode = some items := by
  induction items with
  | nil => rfl
  | cons item others inductionHypothesis =>
      rw [List.map_cons, List.mapM_cons, decodes, inductionHypothesis]
      rfl

/-- Texts are read from the value that is written for them. -/
theorem asTexts?_textsValue (items : List String) : asTexts? (textsValue items) = some items := by
  have decodes : ∀ item, asText? (.text item) = some item := fun _ => rfl
  exact mapM_map_eq_some decodes items

/-- Renames are read back with all their keys. -/
theorem asTextTable?_renamesValue (renames : NameTable String) :
    asTextTable? (renamesValue renames) = some renames := by
  let decode (entry : String × Value) : Option (String × String) :=
    (asText? entry.2).bind fun text => some (entry.1, text)
  have decodes : ∀ entry : String × String,
      decode (Field.text entry.1 entry.2).entry = some entry := fun _ => rfl
  have decoded := mapM_map_eq_some decodes renames.entries
  rw [renamesValue, renameFields, List.map_map]
  change ((renames.entries.map fun entry => (Field.text entry.1 entry.2).entry).mapM
    decode).bind (fun texts => some (NameTable.ofList texts)) = _
  rw [decoded]
  exact congrArg some (NameTable.ofList_entries renames)

/-- An entry that may be missing is found under its own key only. -/
theorem lookup_optionalEntry {α : Type} (key other : String) (toValue : α -> Value)
    (value? : Option α) :
    (optionalEntry key toValue value?).lookup other =
      if other = key then value?.map toValue else none := by
  cases value? with
  | none => simp [optionalEntry]
  | some value =>
      by_cases same : other = key
      · simp [optionalEntry, same]
      · have different : (other == key) = false := beq_eq_false_iff_ne.mpr same
        simp [optionalEntry, List.lookup_cons, same, different]

/-- An entry that may be missing has its own key. -/
theorem key_of_mem_optionalEntry {α : Type} {key : String} {toValue : α -> Value}
    {value? : Option α} {entry : String × Value}
    (member : entry ∈ optionalEntry key toValue value?) : entry.1 = key := by
  obtain ⟨value, -, rfl⟩ := List.mem_map.mp member
  rfl

/-- A setting that is found exactly if it was given is read as it was given. -/
theorem setting?_of_lookup {α : Type} {given : Table} {key : String} {toValue : α -> Value}
    {value? : Option α} (found : given.lookup key = value?.map toValue)
    {decode : Value -> Option α} (decodes : ∀ value, decode (toValue value) = some value) :
    setting? given key (fun value => (decode value).map some) none = some value? := by
  rw [setting?, found]
  cases value? with
  | none => rfl
  | some value => exact congrArg (Option.map some) (decodes value)

/-- Every entry of the rules has a meaning. -/
theorem entriesOf?_ruleTable (rules : RuleSettings) :
    entriesOf?
        ["enum_renames", "removed_interfaces", "removed_type_aliases", "builtin_aliases",
          "forward_declared"]
        (.table (ruleTable rules)) =
      some (ruleTable rules) := by
  rw [entriesOf?, if_pos]
  rw [List.all_eq_true]
  intro entry member
  rw [Bool.or_eq_true, List.contains_iff_mem]
  left
  simp only [ruleTable, List.mem_append] at member
  rcases member with (((member | member) | member) | member) | member
  all_goals
    rw [key_of_mem_optionalEntry member]
    decide

/-- The rules are read with every list that is given, and with no other. -/
theorem rulesOf?_ruleTable (rules : RuleSettings) :
    rulesOf? (.table (ruleTable rules)) = some rules := by
  have renames : (ruleTable rules).lookup "enum_renames" =
      rules.enumRenames?.map renamesValue := by
    simp [ruleTable, List.lookup_append, lookup_optionalEntry]
  have interfaces : (ruleTable rules).lookup "removed_interfaces" =
      rules.removedInterfaces?.map textsValue := by
    simp [ruleTable, List.lookup_append, lookup_optionalEntry]
  have aliases : (ruleTable rules).lookup "removed_type_aliases" =
      rules.removedAliases?.map textsValue := by
    simp [ruleTable, List.lookup_append, lookup_optionalEntry]
  have builtins : (ruleTable rules).lookup "builtin_aliases" =
      rules.builtinAliases?.map textsValue := by
    simp [ruleTable, List.lookup_append, lookup_optionalEntry]
  have forwards : (ruleTable rules).lookup "forward_declared" =
      rules.forwardDeclared?.map textsValue := by
    simp [ruleTable, List.lookup_append, lookup_optionalEntry]
  rw [rulesOf?, entriesOf?_ruleTable]
  simp only [Option.bind_eq_bind, Option.bind_some,
    setting?_of_lookup renames asTextTable?_renamesValue,
    setting?_of_lookup interfaces asTexts?_textsValue,
    setting?_of_lookup aliases asTexts?_textsValue,
    setting?_of_lookup builtins asTexts?_textsValue,
    setting?_of_lookup forwards asTexts?_textsValue]
  rfl

/-- The settings of a file are those that were written. -/
theorem read?_write (settings : Settings) : read? settings.write = some settings := by
  have model := modelOf?_fields settings.model
  have output := outputOf?_fields settings.output
  have logging := loggingOf?_fields settings.logging
  have rules := rulesOf?_ruleTable settings.rules
  rw [read?, toml_read?_write, Option.bind_some]
  change (do
    return ({
      model := <- modelOf? (.table ((modelFields settings.model).map Field.entry))
      output := <- outputOf? (.table ((outputFields settings.output).map Field.entry))
      logging := <- loggingOf? (.table ((logFields settings.logging).map Field.entry))
      rules := <- rulesOf? (.table (ruleTable settings.rules)) } : Settings)) = _
  rw [model, output, logging, rules]
  rfl

/-- Different settings have different files; so a list that is empty is never taken for one that
is absent. -/
theorem write_injective {settings other : Settings} (same : settings.write = other.write) :
    settings = other := by
  have read := read?_write settings
  rw [same, read?_write other] at read
  exact (Option.some.inj read).symm

/-! ## Saving and loading -/

/-- Saving writes the text of the settings, or fails and leaves the files alone. -/
theorem run_save (files : FileSystem) (path : String) (settings : Settings) :
    (save FileSystem.access path settings).run files =
      match files.writeContent path (.text settings.write) with
      | .ok later => (.ok (), later)
      | .error fault => (.error (.file fault), files) := by
  rw [save, Generation.run_bind, Generation.run_write]
  cases files.writeContent path (.text settings.write) with
  | error fault => rfl
  | ok later => rfl

/-- Loading reads the settings from the text of their file and leaves the files alone. -/
theorem run_load {files : FileSystem} {path text : String} (found : files.read path = .ok text)
    {settings : Settings} (read : read? text = some settings) :
    (load FileSystem.access path).run files = (.ok settings, files) := by
  simp only [load, Generation.run_bind, Generation.run_read, found, read]
  rfl

/-- The text of a configuration file gives back all the settings that it was written from, with
an absent list apart from an empty one. So the settings that were saved to a path are the ones
that are loaded from it. -/
theorem saved_settings_are_loaded (settings : Settings) :
    read? settings.write = some settings ∧
      ∀ (files later : FileSystem) (path : String),
        (save FileSystem.access path settings).run files = (.ok (), later) ->
          (load FileSystem.access path).run later = (.ok settings, later) := by
  have read := read?_write settings
  refine ⟨read, ?_⟩
  intro files later path saved
  rw [run_save] at saved
  cases written : files.writeContent path (.text settings.write) with
  | error fault =>
      rw [written] at saved
      cases saved
  | ok left =>
      rw [written] at saved
      obtain rfl : left = later := congrArg Prod.snd saved
      exact run_load (FileSystem.read_of_writeContent written) read

/-- Settings with quotes, backslashes, line breaks and control characters, an absent list, an
empty one and filled ones, and renames of names that are no bare keys. -/
def intricateSettings : Settings :=
  { model := { path := "C:\\models\\\x27meta\x27.json", schema := .legacy, strict := true }
    output := { namespaceName := "", requests := "a \"\"\" b\n\"\"" }
    logging := { level := "\x00\x7f\r\n\t" }
    rules :=
      { enumRenames? :=
          some (.ofList [("", "\x27\x27\x27"), ("a.b = \"c\"", "Größe"), ("x\ny", "\\")])
        removedInterfaces? := some []
        removedAliases? := some ["LSPAny", "\n"]
        forwardDeclared? := some ["Range"] } }

/-- The file that the settings are saved to. -/
def intricateFiles : FileSystem :=
  ((save FileSystem.access "lspgen.toml" intricateSettings).run {}).2

/-- Each of the texts is loaded as it was, and each of the lists. -/
theorem intricate_settings_are_loaded :
    (save FileSystem.access "lspgen.toml" intricateSettings).run {} = (.ok (), intricateFiles) ∧
      (load FileSystem.access "lspgen.toml").run intricateFiles =
        (.ok intricateSettings, intricateFiles) := by
  have saved : (save FileSystem.access "lspgen.toml" intricateSettings).run {} =
      (.ok (), intricateFiles) := rfl
  exact ⟨saved, (saved_settings_are_loaded intricateSettings).2 {} _ "lspgen.toml" saved⟩

end ProtocolHeaders.Settings
