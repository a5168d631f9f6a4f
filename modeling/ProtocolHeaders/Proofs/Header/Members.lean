import ProtocolHeaders.Header.Bindings
import ProtocolHeaders.Proofs.Header.Placement
import ProtocolHeaders.Proofs.Inheritance.Ancestors

/-!
# Members that the bindings list

The bindings list for each structure its own fields and then the inherited ones. A declared
structure has its own fields as members and, through its base clause, those of its bases. At
the top of a header the two agree. Inside another structure no base clause is written, so
what is inherited there is listed without being a member.
-/

namespace ProtocolHeaders.Header

open Bindings (Bound bound boundInAll)
open Declarations (declarations declareNode? nestedStruct nestedStructs structOf)

/-! ## Members of declared structures -/

/-- The structure that a declaration declares at the top of a header. -/
def Declaration.struct? : Declaration -> Option Struct
  | .struct declared => some declared
  | _ => none

/-- The structures that are declared at the top of a header. -/
def topStructs (declared : List Declaration) : List Struct :=
  declared.filterMap Declaration.struct?

/-- The members of a structure: its own fields, and the members of the structures at the top
that its base clause names. -/
inductive HasMember (top : List Struct) : Struct -> String -> Prop where
  | own {declared field} (isField : field ∈ declared.fields) : HasMember top declared field.name
  | inherited {declared base name} (isDeclared : base ∈ top) (named : base.name ∈ declared.bases)
      (isMember : HasMember top base name) : HasMember top declared name

/-- A structure stands at a path: at the top, or inside one that stands at the path before. -/
inductive StandsAt (top : List Struct) : List String -> Struct -> Prop where
  | top {declared} (isDeclared : declared ∈ top) :
      StandsAt top [Marker.strip declared.name] declared
  | inside {path outer inner} (stands : StandsAt top path outer)
      (isNested : inner ∈ outer.nested) : StandsAt top (path ++ [inner.name]) inner

/-- Without a base clause only the own fields are members. -/
theorem hasMember_iff_of_no_bases {top : List Struct} {declared : Struct} {name : String}
    (noBases : declared.bases = []) :
    HasMember top declared name ↔ name ∈ declared.fields.map Field.name := by
  constructor
  · intro isMember
    cases isMember with
    | own isField => exact List.mem_map_of_mem isField
    | inherited isDeclared named isMember =>
        rw [noBases] at named
        cases named
  · intro listed
    obtain ⟨field, isField, rfl⟩ := List.mem_map.mp listed
    exact .own isField

/-! ## Structures in the text of a header -/

/-- A text shows the heading of a structure: its keyword, its name and what it extends. -/
def ShowsHeading (text : String) (declared : Struct) : Prop :=
  ∃ bases, IsBaseText declared.bases bases ∧
    ("struct " ++ declared.name ++ bases ++ " \x7b\n").toList <:+: text.toList

/-- Structures are written one behind the other. -/
theorem codeOfAll_eq_join (depth : Nat) (structures : List Struct) :
    Struct.codeOfAll depth structures = String.join (structures.map (Struct.code depth)) := by
  induction structures with
  | nil => rfl
  | cons declared others inductionHypothesis =>
      rw [Struct.codeOfAll, inductionHypothesis, List.map_cons, String.join_cons]

/-- A structure inside another is written inside the text of the other. -/
theorem code_infix_code {outer inner : Struct} (isNested : inner ∈ outer.nested) (depth : Nat) :
    (inner.code (depth + 1)).toList <:+: (outer.code depth).toList := by
  have inNested := toList_infix_join (List.mem_map_of_mem (f := Struct.code (depth + 1)) isNested)
  rw [← codeOfAll_eq_join] at inNested
  rw [Struct.code_eq depth outer]
  simp only [String.toList_append]
  -- The fields, the indent and the closing brace stand behind the nested structures.
  iterate 3 refine List.IsInfix.trans ?_ (List.prefix_append _ _).isInfix
  exact inNested.trans (List.suffix_append _ _).isInfix

/-- A structure that stands somewhere is written inside the text of one at the top. -/
theorem exists_code_infix {top : List Struct} {path : List String} {declared : Struct}
    (stands : StandsAt top path declared) :
    ∃ outer ∈ top, ∃ depth, (declared.code depth).toList <:+: (outer.code 0).toList := by
  induction stands with
  | @top outer isDeclared => exact ⟨outer, isDeclared, 0, List.infix_refl _⟩
  | inside _ isNested inductionHypothesis =>
      obtain ⟨outer, isTop, depth, isInside⟩ := inductionHypothesis
      exact ⟨outer, isTop, depth + 1, (code_infix_code isNested depth).trans isInside⟩

/-- The text of a structure shows its heading. -/
theorem showsHeading_code (declared : Struct) (depth : Nat) :
    ShowsHeading (declared.code depth) declared := by
  refine ⟨baseClause declared.bases, isBaseText_baseClause _, ?_⟩
  rw [Struct.code_eq]
  refine ⟨(docComment declared.documentation (indentation depth) ++ indentation depth).toList,
    (Struct.codeOfAll (depth + 1) declared.nested ++
      String.join (declared.fields.map (Field.code (indentation (depth + 1)))) ++
      indentation depth ++ "\x7d;\n").toList, ?_⟩
  simp only [String.toList_append, List.append_assoc]

/-- A body shows the heading of every structure that stands in its declarations. -/
theorem exists_body_showsHeading {options : Options} {model : Model}
    {declared : List Declaration} (succeeded : declarations options model = .ok declared)
    {path : List String} {block : Struct} (stands : StandsAt (topStructs declared) path block) :
    ∃ text, Declarations.body options model = .ok text ∧ ShowsHeading text block := by
  obtain ⟨outer, isTop, depth, isInside⟩ := exists_code_infix stands
  obtain ⟨declaration, isDeclared, isStruct⟩ := List.mem_filterMap.mp isTop
  have inBody : (outer.code 0).toList <:+:
      (String.join (declared.map Declaration.code)).toList := by
    cases declaration with
    | enumeration => cases isStruct
    | typeAlias => cases isStruct
    | struct _ =>
        cases isStruct
        refine List.IsInfix.trans ?_ (toList_infix_join (List.mem_map_of_mem isDeclared))
        rw [Declaration.code, String.toList_append]
        exact (List.suffix_append _ _).isInfix
  obtain ⟨bases, isBaseText, heading⟩ := showsHeading_code block depth
  refine ⟨String.join (declared.map Declaration.code), ?_, bases, isBaseText,
    heading.trans (isInside.trans inBody)⟩
  rw [Declarations.body, succeeded]
  rfl

/-! ## Structures of interfaces -/

/-- The fields of a structure are called as the properties say. -/
theorem map_name_fieldOf (index : UnionIndex) (enclosing : String) (properties : List Property) :
    (properties.map (fieldOf index enclosing)).map Field.name =
      properties.map Property.fieldName := by
  rw [List.map_map]
  exact List.map_congr_left fun property _ => name_fieldOf index enclosing property

/-- The structure of an interface has its fields. -/
theorem map_name_fields_structOf (index : UnionIndex) (interface : Interface) :
    (structOf index interface).fields.map Field.name = interface.fieldNames :=
  map_name_fieldOf index interface.name interface.properties

/-- So has the one that it becomes inside another. -/
theorem map_name_fields_nestedStruct (index : UnionIndex) (interface : Interface) :
    (nestedStruct index interface).fields.map Field.name = interface.fieldNames := by
  cases interface
  exact map_name_fieldOf index _ _

/-- A structure inside another extends nothing. -/
theorem bases_nestedStruct (index : UnionIndex) (interface : Interface) :
    (nestedStruct index interface).bases = [] := by
  cases interface
  rfl

/-- A structure inside another is named without markers. -/
theorem name_nestedStruct (index : UnionIndex) (interface : Interface) :
    (nestedStruct index interface).name = Marker.strip interface.name := by
  cases interface
  rfl

/-- Every child of an interface is declared inside it. -/
theorem nestedStruct_mem_nestedStructs (index : UnionIndex) {children : List Interface}
    {child : Interface} (member : child ∈ children) :
    nestedStruct index child ∈ nestedStructs index children := by
  induction children with
  | nil => cases member
  | cons first others inductionHypothesis =>
      rw [nestedStructs]
      rcases List.mem_cons.mp member with rfl | member
      · exact List.mem_cons_self
      · exact List.mem_cons_of_mem _ (inductionHypothesis member)

/-- Every interface of a model is declared at the top of its header. -/
theorem structOf_mem_topStructs {options : Options} {model : Model} {declared : List Declaration}
    (succeeded : declarations options model = .ok declared) {interface : Interface}
    (member : interface ∈ model.interfaces) :
    structOf (.ofModel model) interface ∈ topStructs declared := by
  cases found : Order.order model.nodes with
  | error cycle =>
      rw [declarations, found] at succeeded
      cases succeeded
  | ok ordered =>
      rw [declarations, found] at succeeded
      cases succeeded
      obtain ⟨ordering, permuted, -, rfl⟩ := Order.exists_ordering_of_order_eq_ok found
      have isNode : .interface interface ∈ ordering :=
        permuted.mem_iff.mpr (List.mem_append_right _ (List.mem_map_of_mem member))
      have isDeclared : .struct (structOf (.ofModel model) interface) ∈
          (ordering.map Order.settled).filterMap (declareNode? options (.ofModel model)) :=
        List.mem_filterMap.mpr ⟨_, List.mem_map_of_mem isNode, rfl⟩
      exact List.mem_filterMap.mpr ⟨_, List.mem_append_right _ isDeclared, rfl⟩

/-- At the top of a header the fields of all ancestors are members. -/
theorem hasMember_of_isAncestor {interfaces : List Interface} {index : UnionIndex}
    {top : List Struct} (allDeclared : ∀ interface ∈ interfaces, structOf index interface ∈ top)
    {bases : List String} {ancestor : Interface} {name : String}
    (isAncestor : Inheritance.IsAncestor interfaces bases ancestor)
    (owns : name ∈ ancestor.fieldNames) (declared : Struct) (sameBases : declared.bases = bases) :
    HasMember top declared name := by
  induction isAncestor generalizing declared with
  | @parent bases base parent named resolved =>
      have isDeclared := allDeclared parent (Inheritance.mem_of_resolve? resolved)
      rw [← map_name_fields_structOf index parent] at owns
      obtain ⟨field, isField, rfl⟩ := List.mem_map.mp owns
      refine .inherited isDeclared ?_ (.own isField)
      rwa [sameBases, structOf, Inheritance.name_of_resolve? resolved]
  | @further bases base parent ancestor named resolved beyond inductionHypothesis =>
      have isDeclared := allDeclared parent (Inheritance.mem_of_resolve? resolved)
      refine .inherited isDeclared ?_ (inductionHypothesis owns (structOf index parent) rfl)
      rwa [sameBases, structOf, Inheritance.name_of_resolve? resolved]

/-- At the top of a header everything that the bindings list is a member. -/
theorem hasMember_of_mem_flatten {interfaces : List Interface} {index : UnionIndex}
    {top : List Struct} (allDeclared : ∀ interface ∈ interfaces, structOf index interface ∈ top)
    {interface : Interface} {name : String}
    (listed : name ∈ Inheritance.flatten interfaces interface) :
    HasMember top (structOf index interface) name := by
  rw [Inheritance.flatten_eq, List.mem_append, Inheritance.mem_inherited] at listed
  rcases listed with owns | met
  · rw [← map_name_fields_structOf index interface] at owns
    obtain ⟨field, isField, rfl⟩ := List.mem_map.mp owns
    exact .own isField
  · obtain ⟨ancestor, isAncestor, owns⟩ := Inheritance.exists_ancestor_of_mem_visitBases met
    exact hasMember_of_isAncestor allDeclared isAncestor owns _ rfl

/-! ## Structures with bindings -/

/-- The structure that is declared for one with a binding: one with a base clause at the top,
one without inside another. -/
def Bindings.Bound.declared (index : UnionIndex) (inner : Bound) : Struct :=
  if inner.path.length = 1 then structOf index inner.interface
  else nestedStruct index inner.interface

mutual

/-- The structures with bindings inside one that is declared are declared inside it. -/
theorem standsAt_of_mem_bound {options : Options} {index : UnionIndex} {top : List Struct}
    {path : List String} {outer : Struct} (stands : StandsAt top path outer) :
    (interface : Interface) -> nestedStruct index interface ∈ outer.nested ->
      ∀ inner ∈ bound options path interface,
        path.length < inner.path.length ∧
          StandsAt top inner.path (nestedStruct index inner.interface)
  | ⟨name, documentation, bases, properties, children, dependencies, since, deprecated⟩,
    isNested, inner, member => by
      have standsInside := StandsAt.inside stands isNested
      rw [name_nestedStruct] at standsInside
      rw [bound, List.mem_append, List.mem_singleton] at member
      rcases member with ofChildren | rfl
      · split at ofChildren
        · cases ofChildren
        · obtain ⟨longer, standsDeeper⟩ := standsAt_of_mem_boundInAll standsInside children
            (fun child isChild => nestedStruct_mem_nestedStructs index isChild) inner ofChildren
          rw [List.length_append] at longer
          exact ⟨by omega, standsDeeper⟩
      · exact ⟨by simp, standsInside⟩

/-- The same for several structures inside one that is declared. -/
theorem standsAt_of_mem_boundInAll {options : Options} {index : UnionIndex} {top : List Struct}
    {path : List String} {outer : Struct} (stands : StandsAt top path outer) :
    (interfaces : List Interface) ->
      (∀ interface ∈ interfaces, nestedStruct index interface ∈ outer.nested) ->
      ∀ inner ∈ boundInAll options path interfaces,
        path.length < inner.path.length ∧
          StandsAt top inner.path (nestedStruct index inner.interface)
  | [], _, _, member => by cases member
  | interface :: others, areNested, inner, member => by
      obtain ⟨isNested, othersNested⟩ := List.forall_mem_cons.mp areNested
      rw [boundInAll, List.mem_append] at member
      rcases member with ofFirst | ofOthers
      · exact standsAt_of_mem_bound stands interface isNested inner ofFirst
      · exact standsAt_of_mem_boundInAll stands others othersNested inner ofOthers

end

/-- What has a binding in a top-level interface is the interface itself, or it is declared
inside it. -/
theorem eq_or_standsAt_of_mem_bound {options : Options} {index : UnionIndex} {top : List Struct}
    {interface : Interface} (isDeclared : structOf index interface ∈ top) {inner : Bound}
    (member : inner ∈ bound options [] interface) :
    inner = ⟨[interface.scopedName], interface⟩ ∨
      1 < inner.path.length ∧ StandsAt top inner.path (nestedStruct index inner.interface) := by
  cases interface with
  | mk name documentation bases properties children dependencies since deprecated =>
      rw [bound, List.mem_append, List.mem_singleton] at member
      rcases member with ofChildren | rfl
      · split at ofChildren
        · cases ofChildren
        · right
          exact standsAt_of_mem_boundInAll (.top isDeclared) children
            (fun child isChild => nestedStruct_mem_nestedStructs index isChild) inner ofChildren
      · exact .inl rfl

/-- The fields that a binding lists are the own ones and the inherited ones. -/
theorem names_of_binding_eq_fields {options : Options} {interfaces : List Interface}
    {inner : Bound} {path : String} {names : List String}
    (isBound : inner.binding options interfaces = .fields path names) :
    names = Inheritance.flatten interfaces inner.interface := by
  rw [Bound.binding] at isBound
  split at isBound
  · cases isBound
  · split at isBound
    · cases isBound
    · cases isBound
      rfl

/-- Every structure whose fields the bindings list is declared at its path, under a heading with
its name and what it extends, and all fields that are listed are members exactly if it stands at
the top or inherits only what it also has itself. -/
theorem listed_fields_are_members_iff (options : Options) (model : Model)
    (declared : List Declaration) (succeeded : declarations options model = .ok declared) :
    ∀ interface ∈ model.interfaces, ∀ inner ∈ bound options [] interface, ∀ path names,
      inner.binding options model.interfaces = .fields path names ->
        StandsAt (topStructs declared) inner.path (inner.declared (.ofModel model)) ∧
          (∃ text, Declarations.body options model = .ok text ∧
            ShowsHeading text (inner.declared (.ofModel model))) ∧
          ((∀ name ∈ names,
              HasMember (topStructs declared) (inner.declared (.ofModel model)) name) ↔
            inner.path.length = 1 ∨
              Inheritance.inherited model.interfaces inner.interface ⊆
                inner.interface.fieldNames) := by
  intro interface member inner isBound path names listed
  obtain rfl := names_of_binding_eq_fields listed
  have allDeclared : ∀ interface ∈ model.interfaces,
      structOf (.ofModel model) interface ∈ topStructs declared :=
    fun interface member => structOf_mem_topStructs succeeded member
  rcases eq_or_standsAt_of_mem_bound (allDeclared interface member) isBound with
    rfl | ⟨nested, stands⟩
  · have isTop : Bound.declared (.ofModel model) ⟨[interface.scopedName], interface⟩ =
        structOf (.ofModel model) interface := if_pos rfl
    have stands := StandsAt.top (allDeclared interface member)
    rw [isTop]
    refine ⟨stands, exists_body_showsHeading succeeded stands, ?_⟩
    refine iff_of_true (fun name isListed => ?_) (.inl rfl)
    exact hasMember_of_mem_flatten allDeclared isListed
  · have notTop : inner.path.length ≠ 1 := by omega
    rw [Bound.declared, if_neg notTop]
    refine ⟨stands, exists_body_showsHeading succeeded stands, ?_⟩
    simp only [hasMember_iff_of_no_bases (bases_nestedStruct _ _), map_name_fields_nestedStruct,
      notTop, false_or, Inheritance.flatten_eq, List.mem_append]
    exact ⟨fun all name isInherited => all name (.inr isInherited),
      fun all name isListed => isListed.elim id fun isInherited => all isInherited⟩

/-- A structure inside another that has nothing but what it inherits. -/
def bareChild : Bound :=
  ⟨["Outer", "bare"], { name := "bare", bases := ["Base"] }⟩

/-- A structure inside another that has the field again that it inherits. -/
def repeatingChild : Bound :=
  ⟨["Outer", "again"],
    { name := "again", bases := ["Base"], properties := [{ name := "x", type := .base "int" }] }⟩

/-- The structure around both. -/
def nestingInterface : Interface :=
  { name := "Outer", children := [bareChild.interface, repeatingChild.interface] }

/-- A model in which structures inside another extend one at the top. -/
def nestingModel : Model :=
  { interfaces :=
      [{ name := "Base", properties := [{ name := "x", type := .base "int" }] },
        nestingInterface] }

/-- Each of the structures has a binding, the outer one behind those inside it. -/
theorem bound_nestingInterface :
    bound {} [] nestingInterface =
      [bareChild, repeatingChild, ⟨["Outer"], nestingInterface⟩] := by
  cbv

/-- The model has a header. -/
theorem exists_declarations_nestingModel :
    ∃ declared, declarations {} nestingModel = .ok declared :=
  Declarations.exists_declarations_of_isOk {} (by decide +kernel)

/-- A field that a structure inside another inherits and has again is listed twice, and it is
a member. -/
theorem repeated_field_is_member :
    ∃ declared, declarations {} nestingModel = .ok declared ∧
      nestingInterface ∈ nestingModel.interfaces ∧
      repeatingChild ∈ bound {} [] nestingInterface ∧
      repeatingChild.binding {} nestingModel.interfaces = .fields "Outer::again" ["x", "x"] ∧
      StandsAt (topStructs declared) repeatingChild.path
        (repeatingChild.declared (.ofModel nestingModel)) ∧
      (∃ text, Declarations.body {} nestingModel = .ok text ∧
        ShowsHeading text (repeatingChild.declared (.ofModel nestingModel))) ∧
      ∀ name ∈ ["x", "x"], HasMember (topStructs declared)
        (repeatingChild.declared (.ofModel nestingModel)) name := by
  obtain ⟨declared, succeeded⟩ := exists_declarations_nestingModel
  have isInterface : nestingInterface ∈ nestingModel.interfaces :=
    List.mem_cons_of_mem _ List.mem_cons_self
  have isBound : repeatingChild ∈ bound {} [] nestingInterface := by
    rw [bound_nestingInterface]
    exact List.mem_cons_of_mem _ List.mem_cons_self
  have listed : repeatingChild.binding {} nestingModel.interfaces =
      .fields "Outer::again" ["x", "x"] := by cbv
  have onlyRepeated : Inheritance.inherited nestingModel.interfaces repeatingChild.interface =
      ["x"] := by cbv
  obtain ⟨stands, heading, members⟩ := listed_fields_are_members_iff {} nestingModel declared
    succeeded nestingInterface isInterface repeatingChild isBound _ _ listed
  refine ⟨declared, succeeded, isInterface, isBound, listed, stands, heading,
    members.mpr (.inr ?_)⟩
  rw [onlyRepeated]
  decide +kernel

/-- A field that a structure inside another only inherits is listed without being a member. -/
theorem inherited_field_is_no_member :
    ∃ declared, declarations {} nestingModel = .ok declared ∧
      nestingInterface ∈ nestingModel.interfaces ∧
      bareChild ∈ bound {} [] nestingInterface ∧
      bareChild.binding {} nestingModel.interfaces = .fields "Outer::bare" ["x"] ∧
      StandsAt (topStructs declared) bareChild.path (bareChild.declared (.ofModel nestingModel)) ∧
      (∃ text, Declarations.body {} nestingModel = .ok text ∧
        "struct bare \x7b\n".toList <:+: text.toList) ∧
      ¬ HasMember (topStructs declared) (bareChild.declared (.ofModel nestingModel)) "x" := by
  obtain ⟨declared, succeeded⟩ := exists_declarations_nestingModel
  have isInterface : nestingInterface ∈ nestingModel.interfaces :=
    List.mem_cons_of_mem _ List.mem_cons_self
  have isDeclared := structOf_mem_topStructs succeeded isInterface
  have listed : bareChild.binding {} nestingModel.interfaces = .fields "Outer::bare" ["x"] := by
    cbv
  have isBound : bareChild ∈ bound {} [] nestingInterface := by
    rw [bound_nestingInterface]
    exact List.mem_cons_self
  have stands : StandsAt (topStructs declared) bareChild.path
      (bareChild.declared (.ofModel nestingModel)) := by
    rcases eq_or_standsAt_of_mem_bound isDeclared isBound with same | ⟨_, stands⟩
    · cases congrArg (fun inner => inner.path.length) same
    · exact stands
  obtain ⟨text, body, bases, isBaseText, heading⟩ := exists_body_showsHeading succeeded stands
  refine ⟨declared, succeeded, isInterface, isBound, listed, stands, ⟨text, body, ?_⟩, ?_⟩
  · cases isBaseText
    have headingText : "struct " ++ (bareChild.declared (.ofModel nestingModel)).name ++ "" ++
        " \x7b\n" = "struct bare \x7b\n" := by decide +kernel
    rwa [headingText] at heading
  · intro isMember
    cases (hasMember_iff_of_no_bases rfl).mp isMember

end ProtocolHeaders.Header
