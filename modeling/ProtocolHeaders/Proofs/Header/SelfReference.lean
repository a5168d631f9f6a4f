import ProtocolHeaders.Proofs.Header.Members

/-!
# Structures that refer to themselves

A structure may depend on itself without disturbing the order of the declarations. This asks
for a pointer wherever it has a field of its own type, as no structure can hold itself. Whether
a field becomes a pointer is decided by the structure directly around the field. So the fields
of a top-level structure itself are pointers, while a structure inside it holds it by value
unless the two have one name.
-/

namespace ProtocolHeaders.Header

open Declarations (declarations nestedStruct nestedStructs structOf)

/-- In the block of a top-level interface, the interface itself and those inside it at any
depth, each with the structure that is declared for it. -/
inductive IsDeclaredIn (index : UnionIndex) (interface : Interface) :
    Interface -> Struct -> Prop where
  | top : IsDeclaredIn index interface interface (structOf index interface)
  | inside {outer inner : Interface} {declared : Struct}
      (around : IsDeclaredIn index interface outer declared) (isChild : inner ∈ outer.children) :
      IsDeclaredIn index interface inner (nestedStruct index inner)

/-- Whether a property is of a type, without being a literal. -/
structure IsOfType (index : UnionIndex) (type : String) (property : Property) : Prop where
  no_literal : (index.materialize property.type).kind ≠ .literal
  same : (index.materialize property.type).value = type

section

variable {index : UnionIndex} {interface inner : Interface} {declared : Struct}

theorem nested_nestedStruct (index : UnionIndex) (interface : Interface) :
    (nestedStruct index interface).nested = nestedStructs index interface.children := by
  cases interface
  rfl

/-- The children of an interface are declared inside its structure. -/
theorem IsDeclaredIn.nested_eq (isDeclared : IsDeclaredIn index interface inner declared) :
    declared.nested = nestedStructs index inner.children := by
  cases isDeclared with
  | top => rfl
  | inside around isChild => exact nested_nestedStruct index inner

/-- The properties of an interface become the fields of its structure, which is the one
around them. -/
theorem IsDeclaredIn.fields_eq (isDeclared : IsDeclaredIn index interface inner declared) :
    declared.fields = inner.properties.map (fieldOf index declared.name) := by
  cases isDeclared with
  | top => rfl
  | inside around isChild =>
      cases inner
      rfl

/-- Only a top-level structure keeps the markers of its name. -/
theorem IsDeclaredIn.eq_or_name_eq (isDeclared : IsDeclaredIn index interface inner declared) :
    (inner = interface ∧ declared.name = interface.name) ∨ declared.name = inner.scopedName := by
  cases isDeclared with
  | top => exact .inl ⟨rfl, rfl⟩
  | inside around isChild => exact .inr (name_nestedStruct index inner)

/-- What is declared in the block of an interface stands inside its structure. -/
theorem IsDeclaredIn.exists_standsAt (isDeclared : IsDeclaredIn index interface inner declared) :
    ∃ path, StandsAt [structOf index interface] path declared := by
  induction isDeclared with
  | top => exact ⟨_, .top List.mem_cons_self⟩
  | @inside outer child around isInside isChild inductionHypothesis =>
      obtain ⟨path, stands⟩ := inductionHypothesis
      have isNested : nestedStruct index child ∈ around.nested := by
        rw [isInside.nested_eq]
        exact nestedStruct_mem_nestedStructs index isChild
      exact ⟨_, .inside stands isNested⟩

/-- A field of some type is a pointer if the structure around it is of that type. -/
theorem declaration_fieldOf {type : String} {property : Property}
    (isOfType : IsOfType index type property) (enclosing : String) :
    (fieldOf index enclosing property).declaration =
      if enclosing = type then .ownedPointer type property.fieldName
      else if property.isOptional then .optional type property.fieldName
      else .plain type property.fieldName := by
  obtain ⟨noLiteral, rfl⟩ := isOfType
  rw [UnionIndex.kind_materialize] at noLiteral
  rw [fieldOf_of_not_isLiteral noLiteral]
  by_cases nearest : enclosing = (index.materialize property.type).value
  · rw [if_pos nearest, if_pos nearest.symm, nearest]
  · rw [if_neg nearest, if_neg (Ne.symm nearest)]

/-- What is written for a field of some type. -/
theorem code_declaration_fieldOf {type : String} {property : Property}
    (isOfType : IsOfType index type property) (enclosing : String) :
    (fieldOf index enclosing property).declaration.code =
      if enclosing = type then "std::unique_ptr<" ++ type ++ "> " ++ property.fieldName ++ ";"
      else if property.isOptional then
        "std::optional<" ++ type ++ "> " ++ property.fieldName ++ ";"
      else type ++ " " ++ property.fieldName ++ ";" := by
  rw [declaration_fieldOf isOfType, apply_ite FieldDeclaration.code,
    apply_ite FieldDeclaration.code, FieldDeclaration.code_ownedPointer,
    FieldDeclaration.code_optional, FieldDeclaration.code_plain]

end

/-- Every interface is declared in a block of its own with those inside it, each with a field
for each property. If a property is of the type of the block, its field is a pointer exactly if
the structure directly around it has the name of the block, as the interface itself does; else
it is held by value. -/
theorem own_type_is_pointer_iff (options : Options) (model : Model) (declared : List Declaration)
    (succeeded : declarations options model = .ok declared) :
    ∀ interface ∈ model.interfaces,
      structOf (.ofModel model) interface ∈ topStructs declared ∧
      ∀ inner block, IsDeclaredIn (.ofModel model) interface inner block ->
        (∃ path, StandsAt [structOf (.ofModel model) interface] path block) ∧
        ((inner = interface ∧ block.name = interface.name) ∨ block.name = inner.scopedName) ∧
        block.fields = inner.properties.map (fieldOf (.ofModel model) block.name) ∧
        ∀ property ∈ inner.properties, IsOfType (.ofModel model) interface.name property ->
          (fieldOf (.ofModel model) block.name property).declaration =
              (if block.name = interface.name then .ownedPointer interface.name property.fieldName
              else if property.isOptional then .optional interface.name property.fieldName
              else .plain interface.name property.fieldName) ∧
            (fieldOf (.ofModel model) block.name property).declaration.code =
              if block.name = interface.name then
                "std::unique_ptr<" ++ interface.name ++ "> " ++ property.fieldName ++ ";"
              else if property.isOptional then
                "std::optional<" ++ interface.name ++ "> " ++ property.fieldName ++ ";"
              else interface.name ++ " " ++ property.fieldName ++ ";" := by
  intro interface member
  refine ⟨structOf_mem_topStructs succeeded member, ?_⟩
  intro inner block isDeclared
  refine ⟨isDeclared.exists_standsAt, isDeclared.eq_or_name_eq, isDeclared.fields_eq, ?_⟩
  intro property _ isOfType
  exact ⟨declaration_fieldOf isOfType block.name, code_declaration_fieldOf isOfType block.name⟩

/-- A structure inside another of the same name, with a field of this type. -/
def namesake : Interface :=
  { name := "readonly Outer"
    properties := [{ name := "self?", type := { kind := .union, value := "Outer" } }] }

/-- The structure around it, which has a field of its own type as well. -/
def referringInterface : Interface :=
  { name := "Outer", children := [namesake]
    properties := [{ name := "parent?", type := .reference "Outer" }]
    dependencies := .ofList ["Outer"] }

/-- A model with nothing else. -/
def referringModel : Model :=
  { interfaces := [referringInterface] }

/-- The fields of a structure and of its namesake inside it are pointers, although they are
optional. -/
theorem namesakes_refer_by_pointer :
    ∃ declared, declarations {} referringModel = .ok declared ∧
      referringInterface ∈ referringModel.interfaces ∧
      IsDeclaredIn (.ofModel referringModel) referringInterface referringInterface
        (structOf (.ofModel referringModel) referringInterface) ∧
      IsDeclaredIn (.ofModel referringModel) referringInterface namesake
        (nestedStruct (.ofModel referringModel) namesake) ∧
      (∀ property ∈ referringInterface.properties,
        IsOfType (.ofModel referringModel) "Outer" property ∧
          (fieldOf (.ofModel referringModel) "Outer" property).declaration =
            .ownedPointer "Outer" property.fieldName) ∧
      ∀ property ∈ namesake.properties,
        IsOfType (.ofModel referringModel) "Outer" property ∧
          (fieldOf (.ofModel referringModel) "Outer" property).declaration =
            .ownedPointer "Outer" property.fieldName := by
  obtain ⟨declared, succeeded⟩ : ∃ declared, declarations {} referringModel = .ok declared :=
    Declarations.exists_declarations_of_isOk {} (by decide +kernel)
  have isInterface : referringInterface ∈ referringModel.interfaces := List.mem_cons_self
  have atTop : IsDeclaredIn (.ofModel referringModel) referringInterface referringInterface
      (structOf (.ofModel referringModel) referringInterface) := .top
  have isInside : IsDeclaredIn (.ofModel referringModel) referringInterface namesake
      (nestedStruct (.ofModel referringModel) namesake) := .inside atTop List.mem_cons_self
  have topName : (structOf (.ofModel referringModel) referringInterface).name = "Outer" := rfl
  have insideName : (nestedStruct (.ofModel referringModel) namesake).name = "Outer" := by
    decide +kernel
  obtain ⟨-, inBlock⟩ :=
    own_type_is_pointer_iff {} referringModel declared succeeded referringInterface isInterface
  obtain ⟨-, -, -, topFields⟩ := inBlock _ _ atTop
  obtain ⟨-, -, -, insideFields⟩ := inBlock _ _ isInside
  refine ⟨declared, succeeded, isInterface, atTop, isInside, ?_, ?_⟩
  · intro property member
    obtain rfl := List.mem_singleton.mp member
    have isOfType : IsOfType (.ofModel referringModel) "Outer"
        { name := "parent?", type := .reference "Outer" } :=
      ⟨by decide +kernel, by decide +kernel⟩
    have declaration := (topFields _ member isOfType).1
    rw [topName] at declaration
    exact ⟨isOfType, declaration⟩
  · intro property member
    obtain rfl := List.mem_singleton.mp member
    have isOfType : IsOfType (.ofModel referringModel) "Outer"
        { name := "self?", type := { kind := .union, value := "Outer" } } :=
      ⟨by decide +kernel, by decide +kernel⟩
    have declaration := (insideFields _ member isOfType).1
    rw [insideName] at declaration
    exact ⟨isOfType, declaration⟩

/-- A structure inside another, with a field of the other's type. -/
def holdingChild : Interface :=
  { name := "inner", properties := [{ name := "outer", type := .reference "Outer" }] }

/-- The structure around it, which has a field of the inner type. -/
def heldInterface : Interface :=
  { name := "Outer", children := [holdingChild]
    properties := [{ name := "inner", type := .reference "inner" }]
    dependencies := .ofList ["Outer"] }

/-- A model with nothing else. -/
def heldModel : Model :=
  { interfaces := [heldInterface] }

/-- A structure may hold one inside it by value that holds the outer one by value, and the
order of the declarations does not mind. -/
theorem structure_holds_itself_by_value :
    ∃ declared, declarations {} heldModel = .ok declared ∧
      heldInterface ∈ heldModel.interfaces ∧
      IsDeclaredIn (.ofModel heldModel) heldInterface holdingChild
        (nestedStruct (.ofModel heldModel) holdingChild) ∧
      (∃ property ∈ holdingChild.properties,
        IsOfType (.ofModel heldModel) heldInterface.name property ∧
          fieldOf (.ofModel heldModel) "inner" property ∈
            (nestedStruct (.ofModel heldModel) holdingChild).fields ∧
          (fieldOf (.ofModel heldModel) "inner" property).declaration.code = "Outer outer;") ∧
      (structOf (.ofModel heldModel) heldInterface).fields.map (·.declaration.code) =
        ["inner inner;"] := by
  obtain ⟨declared, succeeded⟩ : ∃ declared, declarations {} heldModel = .ok declared :=
    Declarations.exists_declarations_of_isOk {} (by decide +kernel)
  have isInterface : heldInterface ∈ heldModel.interfaces := List.mem_cons_self
  have isInside : IsDeclaredIn (.ofModel heldModel) heldInterface holdingChild
      (nestedStruct (.ofModel heldModel) holdingChild) := .inside .top List.mem_cons_self
  refine ⟨declared, succeeded, isInterface, isInside, ?_, by decide +kernel⟩
  refine ⟨_, List.mem_cons_self, ⟨by decide +kernel, by decide +kernel⟩, ?_, by decide +kernel⟩
  have name : (nestedStruct (.ofModel heldModel) holdingChild).name = "inner" := by decide +kernel
  rw [isInside.fields_eq, name]
  exact List.mem_cons_self

end ProtocolHeaders.Header
