/-!
# Anomalies of a model

A finding is something that ordering and generation tolerate but that usually
means that a model is broken.
-/

namespace ProtocolHeaders

/-- An anomaly of a model. -/
inductive Finding where
  /-- An earlier interface has the same name. -/
  | duplicateInterface (name : String)
  | unknownBase (interface base : String)
  /-- The field occurs earlier among the own and inherited fields of the interface. -/
  | duplicateField (interface field : String)
  /-- A property, given by the path of its structure, has no type. -/
  | emptyProperty (path field : String)
  | emptyAlias (name : String)
deriving Repr, DecidableEq

/-- The text shown for a finding. -/
def Finding.message : Finding -> String
  | duplicateInterface name => "Duplicate interface name: " ++ name
  | unknownBase interface base =>
      "Interface `" ++ interface ++ "` extends unknown interface `" ++ base ++ "`"
  | duplicateField interface field =>
      "Interface `" ++ interface ++ "` has duplicate flattened field `" ++ field ++ "`"
  | emptyProperty path field =>
      "Property `" ++ path ++ "::" ++ field ++ "` has an empty type expression"
  | emptyAlias name => "Type alias `" ++ name ++ "` has an empty type expression"

end ProtocolHeaders
