import ProtocolHeaders.Header.DocComment
import ProtocolHeaders.Header.Literal
import ProtocolHeaders.Header.Source

/-!
# Declarations

What a header declares: enumerations, aliases and structures, which may hold further
structures. Each of them and each of their parts has a comment in front of it and stands
at the indentation of its depth.
-/

namespace ProtocolHeaders.Header

/-- How a field is declared. -/
inductive FieldDeclaration where
  /-- A constant text. -/
  | constant (name text : String)
  /-- A pointer to a value that the structure owns. -/
  | ownedPointer (type name : String)
  | optional (type name : String)
  | plain (type name : String)
deriving Repr, DecidableEq

namespace FieldDeclaration

/-- The name of the field. -/
def name : FieldDeclaration -> String
  | constant name _ => name
  | ownedPointer _ name => name
  | optional _ name => name
  | plain _ name => name

/-- The declaration in code. -/
def code : FieldDeclaration -> String
  | constant name text => "static inline const std::string " ++ name ++ " = " ++ literal text ++ ";"
  | ownedPointer type name => "std::unique_ptr<" ++ type ++ "> " ++ name ++ ";"
  | optional type name => "std::optional<" ++ type ++ "> " ++ name ++ ";"
  | plain type name => type ++ " " ++ name ++ ";"

/-- A constant is a static member with a string literal. -/
theorem code_constant (name text : String) :
    (constant name text).code =
      "static inline const std::string " ++ name ++ " = " ++ literal text ++ ";" :=
  rfl

/-- What is owned stands behind a pointer. -/
theorem code_ownedPointer (type name : String) :
    (ownedPointer type name).code = "std::unique_ptr<" ++ type ++ "> " ++ name ++ ";" :=
  rfl

/-- What may be absent is an optional. -/
theorem code_optional (type name : String) :
    (optional type name).code = "std::optional<" ++ type ++ "> " ++ name ++ ";" :=
  rfl

/-- Anything else is held by value. -/
theorem code_plain (type name : String) : (plain type name).code = type ++ " " ++ name ++ ";" :=
  rfl

end FieldDeclaration

/-- A field of a structure with its documentation. -/
structure Field where
  documentation : String
  declaration : FieldDeclaration
deriving Repr, DecidableEq

/-- The name of a field. -/
def Field.name (field : Field) : String :=
  field.declaration.name

/-- The lines of a field behind an indent. -/
def Field.code (indent : String) (field : Field) : String :=
  docComment field.documentation indent ++ indent ++ field.declaration.code ++ "\n"

/-- A structure with the structures it extends, those inside it, and its own fields. -/
structure Struct where
  documentation : String
  name : String
  bases : List String
  nested : List Struct
  fields : List Field
deriving Repr

/-- The list of the structures that a structure extends. -/
def baseClause (bases : List String) : String :=
  if bases.isEmpty then "" else " : public " ++ String.intercalate ", public " bases

/-- A structure that extends nothing has no such list. -/
@[simp] theorem baseClause_nil : baseClause [] = "" :=
  rfl

/-- Behind the first structure that is extended, each stands behind a comma. -/
theorem baseClause_cons (first : String) (others : List String) :
    baseClause (first :: others) =
      " : public " ++ first ++ String.join (others.map (", public " ++ ·)) := by
  have listed : String.intercalate ", public " (first :: others) =
      first ++ String.join (others.map (", public " ++ ·)) := by
    induction others generalizing first with
    | nil => simp
    | cons second others inductionHypothesis =>
        rw [String.intercalate_cons_cons, inductionHypothesis, List.map_cons, String.join_cons]
        simp only [String.append_assoc]
  rw [baseClause, if_neg (by simp), listed, String.append_assoc]

example : baseClause ["Message", "Range"] = " : public Message, public Range" := by
  decide +kernel

mutual

/-- The lines of a structure at a depth: the structures inside it, then its fields. -/
def Struct.code (depth : Nat) : Struct -> String
  | ⟨documentation, name, bases, nested, fields⟩ =>
      docComment documentation (indentation depth) ++ indentation depth ++ "struct " ++ name ++
        baseClause bases ++ " \x7b\n" ++ Struct.codeOfAll (depth + 1) nested ++
        String.join (fields.map (Field.code (indentation (depth + 1)))) ++
        indentation depth ++ "\x7d;\n"

/-- The lines of structures at a depth. -/
def Struct.codeOfAll (depth : Nat) : List Struct -> String
  | [] => ""
  | declared :: others => declared.code depth ++ Struct.codeOfAll depth others

end

/-- Behind the heading of a structure stand the structures inside it and its fields, a step
deeper. -/
theorem Struct.code_eq (depth : Nat) (declared : Struct) :
    declared.code depth =
      docComment declared.documentation (indentation depth) ++ indentation depth ++ "struct " ++
        declared.name ++ baseClause declared.bases ++ " \x7b\n" ++
        Struct.codeOfAll (depth + 1) declared.nested ++
        String.join (declared.fields.map (Field.code (indentation (depth + 1)))) ++
        indentation depth ++ "\x7d;\n" := by
  cases declared
  rw [Struct.code]

/-- A name of an enumeration, with the text of its value if it needs one. -/
structure Enumerator where
  documentation : String
  name : String
  value? : Option String
deriving Repr, DecidableEq

/-- The lines of an enumerator. -/
def Enumerator.code (enumerator : Enumerator) : String :=
  docComment enumerator.documentation (indentation 1) ++ indentation 1 ++ enumerator.name ++
    (match enumerator.value? with
      | some value => " = " ++ value
      | none => "") ++ ",\n"

/-- A declaration of a header. -/
inductive Declaration where
  | enumeration (documentation name : String) (enumerators : List Enumerator)
  | typeAlias (documentation name target : String)
  | struct (declared : Struct)
deriving Repr

namespace Declaration

/-- The name that is declared. -/
def name : Declaration -> String
  | enumeration _ name _ => name
  | typeAlias _ name _ => name
  | struct declared => declared.name

/-- The lines of a declaration, set off by a blank line. -/
def code : Declaration -> String
  | enumeration documentation name enumerators =>
      "\n" ++ docComment documentation "" ++ "enum class " ++ name ++ " \x7b\n" ++
        String.join (enumerators.map Enumerator.code) ++ "\x7d;\n"
  | typeAlias documentation name target =>
      "\n" ++ docComment documentation "" ++ "using " ++ name ++ " = " ++ target ++ ";\n"
  | struct declared => "\n" ++ declared.code 0

/-- An enumeration lists its enumerators between braces. -/
theorem code_enumeration (documentation name : String) (enumerators : List Enumerator) :
    (enumeration documentation name enumerators).code =
      "\n" ++ docComment documentation "" ++ "enum class " ++ name ++ " \x7b\n" ++
        String.join (enumerators.map Enumerator.code) ++ "\x7d;\n" :=
  rfl

/-- An alias names the type that it stands for. -/
theorem code_typeAlias (documentation name target : String) :
    (typeAlias documentation name target).code =
      "\n" ++ docComment documentation "" ++ "using " ++ name ++ " = " ++ target ++ ";\n" :=
  rfl

/-- A structure at the top is not indented, and what is inside is by one step. -/
theorem code_struct (declared : Struct) :
    (struct declared).code =
      "\n" ++ docComment declared.documentation "" ++ "struct " ++ declared.name ++
        baseClause declared.bases ++ " \x7b\n" ++ Struct.codeOfAll 1 declared.nested ++
        String.join (declared.fields.map (Field.code (indentation 1))) ++ "\x7d;\n" := by
  have noIndent : indentation 0 = "" := rfl
  rw [code, Struct.code_eq, noIndent]
  simp only [String.append_assoc, String.empty_append]

end Declaration

end ProtocolHeaders.Header
