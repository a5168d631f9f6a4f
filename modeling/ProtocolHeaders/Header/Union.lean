import ProtocolHeaders.Model.Basic
import ProtocolHeaders.Name.First

/-!
# Unions

A union is rendered as a variant whose first alternative is the preferred one:
alternatives that are not deprecated come before deprecated ones, those without a
version before those with one, and early versions before late ones. A reference is
judged by the entity it refers to.
-/

namespace ProtocolHeaders.Header

/-- What the alternatives of a union are ordered by. -/
structure UnionKey where
  deprecated : Bool
  since? : Option Version
deriving Repr, DecidableEq, Inhabited

namespace UnionKey

/-- The key of an entity or of a type expression by itself. -/
def of {α : Type} [Dated α] (entity : α) : UnionKey :=
  { deprecated := Dated.isDeprecated entity, since? := Dated.sinceVersion? entity }

/-- No version comes before any version. -/
def compareSince : (left right : Option Version) -> Ordering
  | none, none => .eq
  | none, some _ => .lt
  | some _, none => .gt
  | some left, some right => left.compare right

/-- Keys compare by deprecation, then by version. -/
def compare (left right : UnionKey) : Ordering :=
  (Ord.compare left.deprecated right.deprecated).then (compareSince left.since? right.since?)

end UnionKey

/-- The keys of named entities. The first entry of a name counts. -/
structure UnionIndex where
  entries : List (String × UnionKey) := []
deriving Repr, Inhabited

namespace UnionIndex

/-- The index of a model: its enumerations, aliases and interfaces. -/
def ofModel (model : Model) : UnionIndex :=
  ⟨model.enumerations.map (fun entity => (entity.name, .of entity)) ++
    model.aliases.map (fun entity => (entity.name, .of entity)) ++
    model.interfaces.map (fun entity => (entity.name, .of entity))⟩

/-- The key of the entity with a name. -/
def get? (index : UnionIndex) (name : String) : Option UnionKey :=
  index.entries.lookup name

/-- The number of names that have a key. -/
def size (index : UnionIndex) : Nat :=
  (Name.firsts Prod.fst index.entries).length

/-- The key of an alternative. -/
def keyOf (index : UnionIndex) (type : TypeExpr) : UnionKey :=
  if type.kind = .reference then (index.get? type.value).getD (.of type) else .of type

/-- Alternatives with the preferred ones first; among equals the order stays. -/
def sortAlternatives (index : UnionIndex) (alternatives : List TypeExpr) : List TypeExpr :=
  alternatives.mergeSort fun left right => (index.keyOf left).compare (index.keyOf right) != .gt

/-- The text of a variant over alternatives. -/
def variantText (alternatives : List TypeExpr) : String :=
  "std::variant<" ++ String.intercalate ", " (alternatives.map TypeExpr.value) ++ ">"

mutual

/-- A type expression in its final form. Only unions with alternatives change: their
alternatives take their final forms and their places, and the text becomes a
variant over them. -/
def materialize (index : UnionIndex) : TypeExpr -> TypeExpr
  | ⟨kind, value, items, since, deprecated⟩ =>
      if kind = .union && !items.isEmpty then
        let sorted := index.sortAlternatives (materializeAll index items)
        ⟨kind, variantText sorted, sorted, since, deprecated⟩
      else ⟨kind, value, items, since, deprecated⟩

/-- Type expressions in their final forms. -/
def materializeAll (index : UnionIndex) : List TypeExpr -> List TypeExpr
  | [] => []
  | type :: others => materialize index type :: materializeAll index others

end

end UnionIndex

end ProtocolHeaders.Header
