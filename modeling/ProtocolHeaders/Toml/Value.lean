/-!
# Values of configuration files

What a text in the TOML format holds. Numbers that are not whole, dates and times are
known by their texts only. The entries of a table are listed in the order in which
they were made, and no key occurs twice. A number without a value may stand in a file
as long as nobody asks for its value.
-/

namespace ProtocolHeaders.Toml

/-- A value of a configuration file. -/
inductive Value where
  | text (value : String)
  | flag (value : Bool)
  | integer (value : Int)
  /-- A number with a point or an exponent, or one that is not finite. -/
  | decimal (written : String)
  /-- A number that is too large for its kind or has no digits where it needs them. -/
  | unreadable (written : String)
  /-- A date, a time, or both. -/
  | moment (written : String)
  | list (items : List Value)
  | table (entries : List (String × Value))
deriving Repr, Inhabited

/-- The entries of a table. -/
abbrev Table := List (String × Value)

mutual

/-- Whether every number in a value has a value. -/
def Value.isReadable : Value -> Bool
  | .unreadable _ => false
  | .list items => areReadable items
  | .table entries => haveReadableValues entries
  | _ => true

/-- Whether every number in the items of a list has a value. -/
def areReadable : List Value -> Bool
  | [] => true
  | item :: items => item.isReadable && areReadable items

/-- Whether every number in the entries of a table has a value. -/
def haveReadableValues : List (String × Value) -> Bool
  | [] => true
  | (_, value) :: entries => value.isReadable && haveReadableValues entries

end

end ProtocolHeaders.Toml
