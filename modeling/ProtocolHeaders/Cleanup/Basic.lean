import ProtocolHeaders.Cleanup.Rules
import ProtocolHeaders.Log.Event
import ProtocolHeaders.Model.Basic
import ProtocolHeaders.Name.First
import ProtocolHeaders.Text.Uppercase

/-!
# Cleaning up a model

A cleanup prepares a loaded model for generation. It goes in stages: enumerations
are deduplicated, renamed and given values fit for code; entities that the rules
remove go, also from the bases of others; an alias gives way to an enumeration or
interface of its name; and dependency sets keep only names that have to be
declared first.

Each stage is a function on models. Beside it stands what the stage changed, as a
list whose length the report gives.
-/

namespace ProtocolHeaders.Cleanup

open Log (Event)

/-! ## Enumerations -/

/-- Only the first enumeration of each name stays. -/
def deduplicate (model : Model) : Model :=
  { model with enumerations := Name.firsts Enumeration.name model.enumerations }

/-- An enumeration under its new name, if the rules give it one. -/
def renameEnumeration (rules : Rules) (enumeration : Enumeration) : Enumeration :=
  { enumeration with
    name := (rules.enumRenames.get? enumeration.name).getD enumeration.name }

/-- The enumerations that the rules name get their new names. -/
def rename (rules : Rules) (model : Model) : Model :=
  { model with enumerations := model.enumerations.map (renameEnumeration rules) }

/-- The old and new names of the enumerations that the rules name. -/
def renames (rules : Rules) (model : Model) : List (String × String) :=
  model.enumerations.filterMap fun enumeration =>
    (rules.enumRenames.get? enumeration.name).map fun newName => (enumeration.name, newName)

/-- The text of a string value without any quotation mark. -/
def withoutQuotes (text : String) : String :=
  String.ofList (text.toList.filter fun c => c != '\'' && c != '"')

/-- A value with a capital first letter in its name, and its text without quotes if
it is a string and with a capital first letter if not. -/
def normalizeValue (isString : Bool) (value : EnumerationValue) : EnumerationValue :=
  { value with
    name := Text.capitalize value.name
    value := if isString then withoutQuotes value.value else Text.capitalize value.value }

/-- An enumeration with all its values normalized. -/
def normalizeEnumeration (enumeration : Enumeration) : Enumeration :=
  { enumeration with
    values := enumeration.values.map (normalizeValue enumeration.isString) }

/-- The values of all enumerations are normalized. -/
def normalize (model : Model) : Model :=
  { model with enumerations := model.enumerations.map normalizeEnumeration }

/-! ## Removed entities -/

mutual

/-- An interface and its children without the removed names among their bases. -/
def dropBases (removed : NameSet) : Interface -> Interface
  | ⟨name, documentation, bases, properties, children, dependencies, since, deprecated⟩ =>
      ⟨name, documentation, bases.filter (!removed.contains ·), properties,
        dropBasesOfAll removed children, dependencies, since, deprecated⟩

/-- Interfaces and their children without the removed names among their bases. -/
def dropBasesOfAll (removed : NameSet) : List Interface -> List Interface
  | [] => []
  | interface :: others => dropBases removed interface :: dropBasesOfAll removed others

end

mutual

/-- The removed names among the bases of an interface, then among those of its
children, each with the name of the structure that loses it. -/
def droppedBases (removed : NameSet) : Interface -> List (String × String)
  | ⟨name, _, bases, _, children, _, _, _⟩ =>
      (bases.filter removed.contains).map (fun base => (base, name)) ++
        droppedBasesOfAll removed children

/-- The bases that interfaces and their children lose, in order. -/
def droppedBasesOfAll (removed : NameSet) : List Interface -> List (String × String)
  | [] => []
  | interface :: others =>
      droppedBases removed interface ++ droppedBasesOfAll removed others

end

/-- The interfaces that the rules remove go. -/
def removeInterfaces (rules : Rules) (model : Model) : Model :=
  { model with
    interfaces := model.interfaces.filter fun interface =>
      !rules.removedInterfaces.contains interface.name }

/-- The interfaces that stay no longer extend the ones that the rules remove. -/
def dropRemovedBases (rules : Rules) (model : Model) : Model :=
  { model with interfaces := dropBasesOfAll rules.removedInterfaces model.interfaces }

/-- The aliases that the rules remove go. -/
def removeAliases (rules : Rules) (model : Model) : Model :=
  { model with
    aliases := model.aliases.filter fun entity => !rules.removedAliases.contains entity.name }

/-- Whether an enumeration or a top-level interface has a name. -/
def isRicher (model : Model) (name : String) : Bool :=
  model.enumerationNames.contains name || model.interfaceNames.contains name

/-- An alias goes if an enumeration or an interface has its name. -/
def removeShadowed (model : Model) : Model :=
  { model with aliases := model.aliases.filter fun entity => !isRicher model entity.name }

/-- The aliases whose name an enumeration or an interface has. -/
def shadowedAliases (model : Model) : List String :=
  model.aliasNames.filter (isRicher model)

/-! ## Dependencies -/

/-- The dependency sets of aliases and top-level interfaces without the names that
satisfy a condition. -/
def prune (condition : String -> Bool) (model : Model) : Model :=
  { model with
    aliases := model.aliases.map fun entity =>
      { entity with dependencies := entity.dependencies.filter (!condition ·) }
    interfaces := model.interfaces.map fun entity =>
      { entity with dependencies := entity.dependencies.filter (!condition ·) } }

/-- The names that satisfy a condition in the dependency sets of aliases, then in
those of top-level interfaces. -/
def prunedNames (condition : String -> Bool) (model : Model) : List String :=
  (model.aliases.map Alias.dependencies ++ model.interfaces.map Interface.dependencies).flatMap
    fun dependencies => dependencies.names.filter condition

/-- Whether an enumeration has a name. Enumerations are declared before all else. -/
def namesEnumeration (model : Model) (name : String) : Bool :=
  model.enumerationNames.contains name

/-- Whether no alias and no top-level interface has a name. -/
def isDangling (model : Model) (name : String) : Bool :=
  !(model.aliasNames.contains name || model.interfaceNames.contains name)

/-! ## The whole cleanup -/

/-- A cleaned model, how much the cleanup changed, and what it reports. -/
structure Outcome where
  model : Model
  report : Report
  events : List Event
deriving Repr

/-- Clean a model up. -/
def clean (rules : Rules) (model : Model) : Outcome :=
  let distinct := deduplicate model
  let normal := normalize (rename rules distinct)
  let kept := removeInterfaces rules normal
  let rebased := removeAliases rules (dropRemovedBases rules kept)
  let unshadowed := removeShadowed rebased
  let ordered := prune (namesEnumeration unshadowed) unshadowed
  let final := prune (isDangling ordered) ordered
  let renamed := renames rules distinct
  let dropped := droppedBasesOfAll rules.removedInterfaces kept.interfaces
  let dangling := prunedNames (isDangling ordered) ordered
  let report : Report :=
    { deduplicatedEnumerations := model.enumerations.length - distinct.enumerations.length
      renamedEnumerations := renamed.length
      removedInterfaces := model.interfaces.length - kept.interfaces.length
      removedAliases := model.aliases.length - unshadowed.aliases.length
      droppedBases := dropped.length
      prunedDependencies :=
        (prunedNames (namesEnumeration unshadowed) unshadowed).length + dangling.length }
  { model := final
    report
    events :=
      renamed.map (fun (oldName, newName) => .renamedEnumeration oldName newName) ++
        dropped.map (fun (base, interface) => .droppedBase base interface) ++
        (shadowedAliases rebased).map .shadowedAlias ++
        dangling.map .prunedDependency ++ [.cleaned report] }

end ProtocolHeaders.Cleanup
