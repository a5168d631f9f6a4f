import ProtocolHeaders.Header.Declarations
import ProtocolHeaders.Proofs.Header.Literals
import ProtocolHeaders.Proofs.Header.TidyLines

/-!
# The text of declarations

What stands in a header for an enumeration, an alias or an interface is laid down here line by
line: its comment, the line with its keyword and its name, and what is inside. An interface
inside another is laid down like one at the top, a step deeper and without what it extends.
The declarations that are made for the entities of a model are written in this way.
-/

namespace ProtocolHeaders.Header

open Declarations (aliasTarget declareAlias declareEnumeration enumeratorOf includes nestedStruct
  nestedStructs structOf)

/-- A text that consists of a text for each item, one behind the other. -/
def IsSequence {α : Type} (isText : α -> String -> Prop) (items : List α) (text : String) :
    Prop :=
  ∃ texts, List.Forall₂ isText items texts ∧ text = String.join texts

section

variable {α : Type} {isText : α -> String -> Prop} {items : List α} {text : String}

/-- What is written for each item by itself makes up a sequence. -/
theorem isSequence_join {write : α -> String} (written : ∀ item, isText item (write item))
    (items : List α) : IsSequence isText items (String.join (items.map write)) := by
  refine ⟨items.map write, ?_, rfl⟩
  rw [List.forall₂_map_right_iff]
  exact List.forall₂_same.mpr fun item _ => written item

/-- Items that leave no text may be left out of a sequence. -/
theorem IsSequence.filter {isShown : α -> Bool} (sequence : IsSequence isText items text)
    (silent : ∀ item text, isText item text -> isShown item = false -> text = "") :
    IsSequence isText (items.filter isShown) text := by
  obtain ⟨texts, each, rfl⟩ := sequence
  induction each with
  | nil => exact ⟨[], .nil, rfl⟩
  | @cons item first others rest isFirst areOthers inductionHypothesis =>
      obtain ⟨kept, eachKept, sameText⟩ := inductionHypothesis
      cases shown : isShown item with
      | true =>
          rw [List.filter_cons_of_pos shown]
          refine ⟨first :: kept, .cons isFirst eachKept, ?_⟩
          rw [String.join_cons, String.join_cons, sameText]
      | false =>
          rw [List.filter_cons_of_neg (by simp [shown])]
          refine ⟨kept, eachKept, ?_⟩
          rw [String.join_cons, silent item first isFirst shown, String.empty_append, sameText]

end

/-- A text that is listed stands in all the listed texts put together. -/
theorem toList_infix_join {part : String} {parts : List String} (listed : part ∈ parts) :
    part.toList <:+: (String.join parts).toList := by
  rw [String.toList_join]
  exact List.infix_of_mem_flatten (List.mem_map_of_mem listed)

/-! ## Fields -/

/-- The text of the field that a property is in the structure `enclosing`. -/
inductive IsFieldText (index : UnionIndex) (enclosing indent : String) (property : Property) :
    String -> Prop where
  /-- A literal is a constant, and its comment lists the literals that are accepted. -/
  | constant (isLiteral : property.type.kind = .literal) :
      IsFieldText index enclosing indent property
        (docComment (materializeDocumentation property) indent ++ indent ++
          "static inline const std::string " ++ property.fieldName ++ " = " ++
          literal property.type.value ++ ";" ++ "\n")
  /-- What has the type of the structure around it is owned through a pointer. -/
  | ownedPointer (noLiteral : property.type.kind ≠ .literal)
      (isEnclosing : (index.materialize property.type).value = enclosing) :
      IsFieldText index enclosing indent property
        (docComment property.documentation indent ++ indent ++
          "std::unique_ptr<" ++ enclosing ++ "> " ++ property.fieldName ++ ";" ++ "\n")
  /-- Any other value that may be absent is an optional. -/
  | optional (noLiteral : property.type.kind ≠ .literal)
      (differs : (index.materialize property.type).value ≠ enclosing)
      (isOptional : property.isOptional = true) :
      IsFieldText index enclosing indent property
        (docComment property.documentation indent ++ indent ++
          "std::optional<" ++ (index.materialize property.type).value ++ "> " ++
          property.fieldName ++ ";" ++ "\n")
  /-- All others stand under their type. -/
  | plain (noLiteral : property.type.kind ≠ .literal)
      (differs : (index.materialize property.type).value ≠ enclosing)
      (isRequired : property.isOptional = false) :
      IsFieldText index enclosing indent property
        (docComment property.documentation indent ++ indent ++
          (index.materialize property.type).value ++ " " ++ property.fieldName ++ ";" ++ "\n")

section

variable {index : UnionIndex} {property : Property}

/-- Only the documentation of a literal changes. -/
theorem documentation_materializeProperty (noLiteral : property.type.kind ≠ .literal)
    (index : UnionIndex) :
    (materializeProperty index property).documentation = property.documentation := by
  simp [materializeProperty, materializeDocumentation, noLiteral]

/-- A property that is no literal becomes a pointer, an optional or a plain field. -/
theorem fieldOf_of_not_isLiteral (noLiteral : property.type.kind ≠ .literal) (index : UnionIndex)
    (enclosing : String) :
    fieldOf index enclosing property =
      { documentation := property.documentation
        declaration :=
          if (index.materialize property.type).value = enclosing then
            .ownedPointer enclosing property.fieldName
          else if property.isOptional then
            .optional (index.materialize property.type).value property.fieldName
          else .plain (index.materialize property.type).value property.fieldName } := by
  have stillNone : (index.materialize property.type).kind ≠ .literal := by
    rwa [UnionIndex.kind_materialize]
  rw [fieldOf, finalField, documentation_materializeProperty noLiteral, declare,
    materializeProperty, if_neg stillNone]
  by_cases isEnclosing : (index.materialize property.type).value = enclosing
  · rw [if_pos isEnclosing, if_pos isEnclosing, isEnclosing]
    rfl
  · rw [if_neg isEnclosing, if_neg isEnclosing]
    rfl

/-- A field is written as its property asks. -/
theorem isFieldText_code (index : UnionIndex) (enclosing indent : String) (property : Property) :
    IsFieldText index enclosing indent property
      ((fieldOf index enclosing property).code indent) := by
  by_cases isLiteral : property.type.kind = .literal
  · rw [fieldOf_of_isLiteral isLiteral, Field.code, FieldDeclaration.code_constant]
    simp only [← String.append_assoc]
    exact .constant isLiteral
  · rw [fieldOf_of_not_isLiteral isLiteral, Field.code]
    by_cases isEnclosing : (index.materialize property.type).value = enclosing
    · rw [if_pos isEnclosing, FieldDeclaration.code_ownedPointer]
      simp only [← String.append_assoc]
      exact .ownedPointer isLiteral isEnclosing
    · rw [if_neg isEnclosing]
      cases isOptional : property.isOptional with
      | true =>
          rw [if_pos rfl, FieldDeclaration.code_optional]
          simp only [← String.append_assoc]
          exact .optional isLiteral isEnclosing isOptional
      | false =>
          rw [if_neg Bool.false_ne_true, FieldDeclaration.code_plain]
          simp only [← String.append_assoc]
          exact .plain isLiteral isEnclosing isOptional

end

/-! ## Structures -/

/-- The text of the fields that properties are in the structure `enclosing`, at a depth. -/
abbrev AreFieldTexts (index : UnionIndex) (enclosing : String) (depth : Nat) :
    List Property -> String -> Prop :=
  IsSequence (IsFieldText index enclosing (indentation depth))

mutual

/-- The text of an interface inside another, at a depth. What it extends does not show. -/
inductive IsNestedText (index : UnionIndex) : Nat -> Interface -> String -> Prop where
  | struct {depth : Nat} {child : Interface} {nested fields : String}
      (inside : AreNestedTexts index (depth + 1) child.children nested)
      (own : AreFieldTexts index child.scopedName (depth + 1) child.properties fields) :
      IsNestedText index depth child
        (docComment child.documentation (indentation depth) ++ indentation depth ++ "struct " ++
          child.scopedName ++ " \x7b\n" ++ nested ++ fields ++ indentation depth ++ "\x7d;\n")

/-- The text of the interfaces inside another, one behind the other. -/
inductive AreNestedTexts (index : UnionIndex) : Nat -> List Interface -> String -> Prop where
  | none {depth : Nat} : AreNestedTexts index depth [] ""
  | next {depth : Nat} {child : Interface} {others : List Interface} {first rest : String}
      (isFirst : IsNestedText index depth child first)
      (areOthers : AreNestedTexts index depth others rest) :
      AreNestedTexts index depth (child :: others) (first ++ rest)

end

mutual

/-- A structure inside another is written as its interface asks. -/
theorem isNestedText_code (index : UnionIndex) :
    (child : Interface) -> (depth : Nat) ->
      IsNestedText index depth child ((nestedStruct index child).code depth)
  | ⟨name, documentation, bases, properties, children, dependencies, since, deprecated⟩,
    depth => by
      rw [nestedStruct, Struct.code, baseClause_nil, String.append_empty, List.map_map]
      exact .struct (areNestedTexts_codeOfAll index children (depth + 1))
        (isSequence_join (isFieldText_code index _ _) properties)

/-- The structures inside another are written as their interfaces ask. -/
theorem areNestedTexts_codeOfAll (index : UnionIndex) :
    (children : List Interface) -> (depth : Nat) ->
      AreNestedTexts index depth children
        (Struct.codeOfAll depth (nestedStructs index children))
  | [], _ => .none
  | child :: others, depth =>
      .next (isNestedText_code index child depth) (areNestedTexts_codeOfAll index others depth)

end

/-- What stands behind the name of a structure that extends others. -/
inductive IsBaseText : List String -> String -> Prop where
  | none : IsBaseText [] ""
  | listed (first : String) (others : List String) :
      IsBaseText (first :: others)
        (" : public " ++ first ++ String.join (others.map (", public " ++ ·)))

/-- What a structure extends is written behind its name. -/
theorem isBaseText_baseClause (bases : List String) : IsBaseText bases (baseClause bases) := by
  cases bases with
  | nil => exact .none
  | cons first others =>
      rw [baseClause_cons]
      exact .listed first others

/-! ## Nodes -/

/-- The block of a node. -/
inductive IsNodeText (options : Options) (index : UnionIndex) : Node -> String -> Prop where
  /-- An alias that the target provides leaves no text. -/
  | provided {entity : Alias} (isProvided : entity.name ∈ options.builtinAliases) :
      IsNodeText options index (.typeAlias entity) ""
  /-- An alias of a literal stands for any text. -/
  | literalAlias {entity : Alias} (notProvided : entity.name ∉ options.builtinAliases)
      (isLiteral : entity.type.kind = .literal) :
      IsNodeText options index (.typeAlias entity)
        ("\n" ++ docComment entity.documentation "" ++ "using " ++ entity.name ++ " = " ++
          "std::string" ++ ";\n")
  /-- Any other alias stands for its type. -/
  | typeAlias {entity : Alias} (notProvided : entity.name ∉ options.builtinAliases)
      (noLiteral : entity.type.kind ≠ .literal) :
      IsNodeText options index (.typeAlias entity)
        ("\n" ++ docComment entity.documentation "" ++ "using " ++ entity.name ++ " = " ++
          (index.materialize entity.type).value ++ ";\n")
  /-- An interface is a structure, with the interfaces inside it before its own fields. -/
  | interface {entity : Interface} {bases nested fields : String}
      (extended : IsBaseText entity.bases bases)
      (inside : AreNestedTexts index 1 entity.children nested)
      (own : AreFieldTexts index entity.name 1 entity.properties fields) :
      IsNodeText options index (.interface entity)
        ("\n" ++ docComment entity.documentation "" ++ "struct " ++ entity.name ++ bases ++
          " \x7b\n" ++ nested ++ fields ++ "\x7d;\n")

section

variable {options : Options} {index : UnionIndex}

/-- A structure at the top is written as its interface asks. -/
theorem isNodeText_structOf (entity : Interface) :
    IsNodeText options index (.interface entity)
      (Declaration.struct (structOf index entity)).code := by
  rw [Declaration.code_struct]
  refine .interface (isBaseText_baseClause _) (areNestedTexts_codeOfAll index _ 1) ?_
  rw [structOf, List.map_map]
  exact isSequence_join (isFieldText_code index _ _) entity.properties

-- What the structure inside extends does not show, and only the field of the outer type itself is
-- a pointer.
example :
    (Declaration.struct (structOf ⟨[]⟩
      { name := "Outer", bases := ["Message", "Range"]
        children :=
          [{ name := "inner?", bases := ["Base"]
             properties := [{ name := "delta?", type := .base "bool" }] }]
        properties := [{ name := "parent?", type := .reference "Outer" }] })).code =
      "\nstruct Outer : public Message, public Range \x7b\n" ++
        "    struct inner \x7b\n        std::optional<bool> delta;\n    \x7d;\n" ++
        "    std::unique_ptr<Outer> parent;\n\x7d;\n" := by
  decide +kernel

/-- An alias is written as the one that it is. -/
theorem isNodeText_declareAlias {entity : Alias}
    (notProvided : entity.name ∉ options.builtinAliases) :
    IsNodeText options index (.typeAlias entity) (declareAlias index entity).code := by
  rw [declareAlias, Declaration.code_typeAlias, aliasTarget, UnionIndex.kind_materialize]
  by_cases isLiteral : entity.type.kind = .literal
  · rw [if_pos isLiteral]
    exact .literalAlias notProvided isLiteral
  · rw [if_neg isLiteral]
    exact .typeAlias notProvided isLiteral

end

/-! ## Enumerations -/

/-- The text of a value of an enumeration. -/
inductive IsEnumeratorText (kind : EnumerationKind) (value : EnumerationValue) :
    String -> Prop where
  /-- What is sent as a string has no number. -/
  | named (isString : kind = .string) : IsEnumeratorText kind value
      (docComment value.documentation (indentation 1) ++ indentation 1 ++ value.name ++ ",\n")
  | numbered (noString : kind ≠ .string) : IsEnumeratorText kind value
      (docComment value.documentation (indentation 1) ++ indentation 1 ++ value.name ++ " = " ++
        value.value ++ ",\n")

/-- The block of an enumeration. -/
inductive IsEnumerationText (enumeration : Enumeration) : String -> Prop where
  | enumeration {values : String}
      (inside : IsSequence (IsEnumeratorText enumeration.kind) enumeration.values values) :
      IsEnumerationText enumeration
        ("\n" ++ docComment enumeration.documentation "" ++ "enum class " ++ enumeration.name ++
          " \x7b\n" ++ values ++ "\x7d;\n")

/-- A value is written as its enumeration is sent. -/
theorem isEnumeratorText_code (enumeration : Enumeration) (value : EnumerationValue) :
    IsEnumeratorText enumeration.kind value (enumeratorOf enumeration.isString value).code := by
  by_cases isString : enumeration.kind = .string
  · have isNamed : enumeration.isString = true := beq_iff_eq.mpr isString
    simp only [enumeratorOf, Enumerator.code, isNamed, if_true, String.append_empty]
    exact .named isString
  · have isNumbered : enumeration.isString = false := beq_eq_false_iff_ne.mpr isString
    simp only [enumeratorOf, Enumerator.code, isNumbered, Bool.false_eq_true, if_false,
      ← String.append_assoc]
    exact .numbered isString

/-- An enumeration is written with all its values. -/
theorem isEnumerationText_code (enumeration : Enumeration) :
    IsEnumerationText enumeration (declareEnumeration enumeration).code := by
  rw [declareEnumeration, Declaration.code_enumeration, List.map_map]
  exact .enumeration (isSequence_join (isEnumeratorText_code enumeration) enumeration.values)

/-! ## Headers -/

/-- What stands in a header of declarations before the first of them. -/
def opening (options : Options) : String :=
  banner ++ checksumLine options ++ "\n#pragma once\n\n" ++
    String.join (includes.map includeLine) ++ "\nnamespace " ++ options.namespaceName ++ " \x7b\n"

/-- A header lays down the enumerations of a model and then nodes in a given order, each in a
block of its own. The whole is made tidy, which takes only blanks from it. -/
def LaysOut (options : Options) (model : Model) (nodes : List Node) (header : String) : Prop :=
  ∃ enumerations blocks,
    IsSequence IsEnumerationText model.enumerations enumerations ∧
      IsSequence (IsNodeText options (.ofModel model)) nodes blocks ∧
      IsTidyOf header.toList (opening options ++ enumerations ++ blocks ++ "\n\x7d\n").toList

/-- The blocks of a body stand behind what opens a header. -/
theorem source_append (options : Options) (enumerations blocks : String) :
    source options includes (enumerations ++ blocks) =
      tidy (opening options ++ enumerations ++ blocks ++ "\n\x7d\n") := by
  simp only [source, opening, String.append_assoc]

end ProtocolHeaders.Header
