import ProtocolHeaders.Model.Entity

/-!
# Models

A model is what a model file holds: the entities of a protocol in file order.
Names may repeat; what that means is up to each analysis.
-/

namespace ProtocolHeaders

/-- The entities of a protocol, in file order. -/
structure Model where
  enumerations : List Enumeration := []
  aliases : List Alias := []
  interfaces : List Interface := []
  requests : List Request := []
  notifications : List Notification := []
deriving Repr, DecidableEq, Inhabited

namespace Model

/-- The names of the enumerations. -/
def enumerationNames (model : Model) : List String :=
  model.enumerations.map Enumeration.name

/-- The names of the aliases. -/
def aliasNames (model : Model) : List String :=
  model.aliases.map Alias.name

/-- The names of the top-level interfaces. -/
def interfaceNames (model : Model) : List String :=
  model.interfaces.map Interface.name

/-- The number of named entities; messages do not count. -/
def entityCount (model : Model) : Nat :=
  model.enumerations.length + model.aliases.length + model.interfaces.length

/-- The first top-level interface with a name. -/
def interface? (model : Model) (name : String) : Option Interface :=
  model.interfaces.find? (·.name == name)

end Model

end ProtocolHeaders
