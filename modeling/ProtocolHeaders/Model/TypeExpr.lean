import ProtocolHeaders.Model.Dated

/-!
# Type expressions

A type expression carries the text it has in the generated code and, for unions
and literals, the alternatives or the sibling literals behind that text.
-/

namespace ProtocolHeaders

/-- The kinds of type expressions. -/
inductive TypeKind where
  /-- A type the target language provides. -/
  | base
  /-- A named entity of the model. -/
  | reference
  | array
  | map
  | tuple
  /-- One of several alternatives. -/
  | union
  /-- A string literal. -/
  | literal
deriving Repr, DecidableEq, Inhabited

/-- A type expression. `value` is the text in the generated code; for a reference
it is the name of the entity, for a literal the literal without quotes. `items`
are the alternatives of a union or the siblings of a literal. -/
structure TypeExpr where
  kind : TypeKind
  value : String
  items : List TypeExpr := []
  since : Option String := none
  deprecated : Option String := none
deriving Repr, Inhabited

namespace TypeExpr

instance : Dated TypeExpr := ⟨TypeExpr.since, TypeExpr.deprecated⟩

mutual

/-- Equality of type expressions is decided part by part. -/
protected def decEq : (left right : TypeExpr) -> Decidable (left = right)
  | ⟨kind, value, items, since, deprecated⟩, ⟨kind', value', items', since', deprecated'⟩ =>
      match TypeExpr.decEqList items items' with
      | isTrue sameItems =>
          if same : kind = kind' ∧ value = value' ∧ since = since' ∧ deprecated = deprecated' then
            isTrue (by obtain ⟨rfl, rfl, rfl, rfl⟩ := same; rw [sameItems])
          else
            isFalse fun equal => same (by cases equal; exact ⟨rfl, rfl, rfl, rfl⟩)
      | isFalse differ => isFalse fun equal => differ (by cases equal; rfl)

/-- Equality of lists of type expressions is decided member by member. -/
protected def decEqList : (left right : List TypeExpr) -> Decidable (left = right)
  | [], [] => isTrue rfl
  | [], _ :: _ => isFalse nofun
  | _ :: _, [] => isFalse nofun
  | first :: others, first' :: others' =>
      match TypeExpr.decEq first first', TypeExpr.decEqList others others' with
      | isTrue sameFirst, isTrue sameOthers => isTrue (by rw [sameFirst, sameOthers])
      | isFalse differ, _ => isFalse fun equal => differ (List.cons.inj equal).1
      | _, isFalse differ => isFalse fun equal => differ (List.cons.inj equal).2

end

instance : DecidableEq TypeExpr := TypeExpr.decEq

/-- A type that the target language provides. -/
def base (value : String) : TypeExpr := { kind := .base, value }

/-- A reference to a named entity. -/
def reference (name : String) : TypeExpr := { kind := .reference, value := name }

/-- A string literal, given without quotes. -/
def literal (value : String) : TypeExpr := { kind := .literal, value }

/-- A union over alternatives. Until it is rendered its text lists them between
bars. -/
def union (items : List TypeExpr) : TypeExpr :=
  { kind := .union, value := String.intercalate " | " (items.map TypeExpr.value), items }

/-- The expression with a version tag. -/
def withSince (type : TypeExpr) (tag : String) : TypeExpr := { type with since := some tag }

/-- The expression with a deprecation message. -/
def withDeprecated (type : TypeExpr) (message : String) : TypeExpr :=
  { type with deprecated := some message }

end TypeExpr

end ProtocolHeaders
