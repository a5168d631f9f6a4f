import Mathlib
import ProtocolHeaders.Proofs.Header.Members

/-!
# Declared structures and their bindings

The bindings walk the interfaces of a model, and the declarations turn them into structures
that stand inside each other. Outside the structures that are only announced, both meet the
same structures in the same order: interface by interface, each structure behind those inside
it. So every declared structure has one line. A path that is declared twice has two.
-/

namespace ProtocolHeaders.Header

open Bindings (Binding Bound body bound boundInAll enumerationTable isForward)
open Declarations (declarations declareNode? nestedStruct nestedStructs structOf)

mutual

/-- A structure and those inside it with their paths, each behind those inside it. Nothing
inside an announced structure is among them. -/
def Struct.postorder (announced : NameSet) (outer : List String) :
    Struct -> List (List String × Struct)
  | ⟨documentation, name, bases, nested, fields⟩ =>
      (if announced.contains name then []
        else Struct.postorderOfAll announced (outer ++ [name]) nested) ++
      [(outer ++ [name], ⟨documentation, name, bases, nested, fields⟩)]

/-- The same for several structures, one after the other. -/
def Struct.postorderOfAll (announced : NameSet) (outer : List String) :
    List Struct -> List (List String × Struct)
  | [] => []
  | declared :: others =>
      declared.postorder announced outer ++ Struct.postorderOfAll announced outer others

end

/-- A structure with a binding, as it is declared at its path. -/
def Bindings.Bound.placed (index : UnionIndex) (inner : Bound) : List String × Struct :=
  (inner.path, inner.declared index)

variable {options : Options} {index : UnionIndex}

/-! ## One line for each structure -/

/-- Structures are gone through one by one. -/
theorem postorderOfAll_eq_flatMap (announced : NameSet) (outer : List String)
    (structs : List Struct) :
    Struct.postorderOfAll announced outer structs =
      structs.flatMap (Struct.postorder announced outer) := by
  induction structs with
  | nil => rfl
  | cons declared others inductionHypothesis =>
      rw [Struct.postorderOfAll, List.flatMap_cons, inductionHypothesis]

/-- Interfaces are bound one by one. -/
theorem boundInAll_eq_flatMap (options : Options) (outer : List String)
    (interfaces : List Interface) :
    boundInAll options outer interfaces = interfaces.flatMap (bound options outer) := by
  induction interfaces with
  | nil => rfl
  | cons interface others inductionHypothesis =>
      rw [boundInAll, List.flatMap_cons, inductionHypothesis]

/-- An interface is announced if the options name it. -/
theorem isForward_iff {interface : Interface} :
    isForward options interface = true ↔ interface.scopedName ∈ options.forwardDeclared :=
  NameSet.contains_iff

/-- A structure has its line behind those of its children, and is alone if it is announced. -/
theorem bound_eq (options : Options) (outer : List String) (interface : Interface) :
    bound options outer interface =
      (if interface.scopedName ∈ options.forwardDeclared then []
        else interface.children.flatMap (bound options (outer ++ [interface.scopedName]))) ++
      [⟨outer ++ [interface.scopedName], interface⟩] := by
  cases interface with
  | mk name documentation bases properties children dependencies since deprecated =>
      simp only [bound, boundInAll_eq_flatMap, isForward_iff]
      rfl

mutual

/-- Inside another structure, the structures with bindings are those that are declared. -/
theorem map_placed_bound {outer : List String} (isInside : outer ≠ []) :
    (interface : Interface) ->
      (bound options outer interface).map (Bound.placed index) =
        (nestedStruct index interface).postorder options.forwardDeclared outer
  | ⟨name, documentation, bases, properties, children, dependencies, since, deprecated⟩ => by
      have deeper : outer ++ [Marker.strip name] ≠ [] := List.concat_ne_nil _ _
      have notTop : (outer ++ [Marker.strip name]).length ≠ 1 := by
        have := List.length_pos_of_ne_nil isInside
        rw [List.length_append, List.length_singleton]
        omega
      rw [bound, List.map_append, nestedStruct, Struct.postorder]
      congr 1
      · rw [isForward, Interface.scopedName]
        split
        · rfl
        · exact map_placed_boundInAll deeper children
      · rw [List.map_singleton, Bound.placed, Bound.declared, if_neg notTop, nestedStruct]

/-- The same for several structures. -/
theorem map_placed_boundInAll {outer : List String} (isInside : outer ≠ []) :
    (interfaces : List Interface) ->
      (boundInAll options outer interfaces).map (Bound.placed index) =
        Struct.postorderOfAll options.forwardDeclared outer (nestedStructs index interfaces)
  | [] => rfl
  | interface :: others => by
      rw [boundInAll, List.map_append, nestedStructs, Struct.postorderOfAll,
        map_placed_bound isInside interface, map_placed_boundInAll isInside others]

end

/-- At the top, where names carry no markers, the structures with bindings are those that are
declared, in the same order. -/
theorem map_placed_bound_top {interface : Interface}
    (unmarked : Marker.strip interface.name = interface.name) :
    (bound options [] interface).map (Bound.placed index) =
      (structOf index interface).postorder options.forwardDeclared [] := by
  cases interface with
  | mk name documentation bases properties children dependencies since deprecated =>
      change Marker.strip name = name at unmarked
      have isInside : [name] ≠ [] := List.cons_ne_nil _ _
      rw [bound, List.map_append, structOf, Struct.postorder, isForward, Interface.scopedName]
      simp only [unmarked, List.nil_append]
      congr 1
      split
      · rfl
      · exact map_placed_boundInAll isInside children

/-! ## Declared structures -/

/-- The structure that a node is declared as, if it is an interface. -/
def structOf? (index : UnionIndex) : Node -> Option Struct
  | .typeAlias _ => none
  | .interface entity => some (structOf index entity)

/-- The structures of a model are those of its interfaces. -/
theorem filterMap_structOf?_nodes (index : UnionIndex) (model : Model) :
    model.nodes.filterMap (structOf? index) = model.interfaces.map (structOf index) := by
  have ofAliases : (model.aliases.map Node.typeAlias).filterMap (structOf? index) = [] := by
    rw [List.filterMap_map]
    exact List.filterMap_eq_nil_iff.mpr fun entity _ => rfl
  have ofInterfaces : (model.interfaces.map Node.interface).filterMap (structOf? index) =
      model.interfaces.map (structOf index) := by
    rw [List.filterMap_map, ← List.filterMap_eq_map]
    rfl
  rw [Model.nodes, List.filterMap_append, ofAliases, ofInterfaces, List.nil_append]

/-- Whether it is provided or not, no alias becomes a structure. -/
theorem struct?_declareNode? (options : Options) (index : UnionIndex) (node : Node) :
    (declareNode? options index (Order.settled node)).bind Declaration.struct? =
      structOf? index node := by
  cases node with
  | typeAlias entity =>
      simp only [Order.settled, Node.withDependencies, declareNode?]
      split <;> rfl
  | interface entity => rfl

/-- A header declares a structure for each interface of its model, as often as the model has
it. -/
theorem topStructs_perm {model : Model} {declared : List Declaration}
    (succeeded : declarations options model = .ok declared) :
    (topStructs declared).Perm (model.interfaces.map (structOf (.ofModel model))) := by
  cases found : Order.order model.nodes with
  | error cycle =>
      rw [declarations, found] at succeeded
      cases succeeded
  | ok nodes =>
      rw [declarations, found] at succeeded
      cases succeeded
      obtain ⟨ordering, permuted, -, rfl⟩ := Order.exists_ordering_of_order_eq_ok found
      have noStructs : (model.enumerations.map Declarations.declareEnumeration).filterMap
          Declaration.struct? = [] := by
        rw [List.filterMap_map]
        exact List.filterMap_eq_nil_iff.mpr fun enumeration _ => rfl
      rw [topStructs, List.filterMap_append, noStructs, List.nil_append, List.filterMap_filterMap,
        List.filterMap_map]
      have ofNodes : (fun node => (declareNode? options (.ofModel model) node).bind
          Declaration.struct?) ∘ Order.settled = structOf? (.ofModel model) :=
        funext fun node => struct?_declareNode? options (.ofModel model) node
      rw [ofNodes, ← filterMap_structOf?_nodes]
      exact permuted.filterMap _

/-! ## Coverage -/

/-- The bindings of a model have one line for each declared structure outside the announced
ones. -/
structure CoversDeclared (options : Options) (model : Model) : Prop where
  /-- Behind the tables of enumerations stand the lines of the structures, interface by
  interface, each group set off by a blank line. -/
  lines : body options model =
    String.join ((model.enumerations.filter Enumeration.isString).map enumerationTable) ++
      String.join (model.interfaces.map fun interface =>
        (if interface.scopedName ∈ options.forwardDeclared then "" else "\n") ++
          String.join ((bound options [] interface).map fun inner =>
            (inner.binding options model.interfaces).line))
  /-- A structure has its line behind those of its children, unless it is announced, and its
  path is that of the structure around it with its own name. -/
  childrenFirst : ∀ outer interface, bound options outer interface =
    (if interface.scopedName ∈ options.forwardDeclared then []
      else interface.children.flatMap (bound options (outer ++ [interface.scopedName]))) ++
    [⟨outer ++ [interface.scopedName], interface⟩]
  announced : ∀ inner : Bound, inner.interface.scopedName ∈ options.forwardDeclared ->
    (inner.binding options model.interfaces).line =
      "\nJSONIFY_FWD(" ++ String.intercalate "::" inner.path ++ ")\n"
  empty : ∀ inner : Bound, inner.interface.scopedName ∉ options.forwardDeclared ->
    Inheritance.flatten model.interfaces inner.interface = [] ->
    (inner.binding options model.interfaces).line =
      "JSONIFY_EMPTY(" ++ String.intercalate "::" inner.path ++ ")\n"
  fields : ∀ inner : Bound, inner.interface.scopedName ∉ options.forwardDeclared ->
    Inheritance.flatten model.interfaces inner.interface ≠ [] ->
    (inner.binding options model.interfaces).line =
      "JSONIFY(" ++ String.intercalate "::" inner.path ++ ", " ++
        String.intercalate ", " (Inheritance.flatten model.interfaces inner.interface) ++ ")\n"
  /-- The structures with lines are those that are declared in the block of their interface,
  each behind those inside it. -/
  declared : ∀ interface ∈ model.interfaces,
    (bound options [] interface).map (Bound.placed (.ofModel model)) =
      (structOf (.ofModel model) interface).postorder options.forwardDeclared []
  /-- A path has as many lines as structures are declared there. -/
  once : ∀ declared, declarations options model = .ok declared -> ∀ path : String,
    ((model.interfaces.flatMap (bound options [])).map fun inner =>
        String.intercalate "::" inner.path).count path =
      ((Struct.postorderOfAll options.forwardDeclared [] (topStructs declared)).map fun placed =>
        String.intercalate "::" placed.1).count path

/-- The binding of a structure depends on whether it is announced and on its fields. -/
theorem line_binding (options : Options) (interfaces : List Interface) (inner : Bound) :
    (inner.binding options interfaces).line =
      if inner.interface.scopedName ∈ options.forwardDeclared then
        "\nJSONIFY_FWD(" ++ String.intercalate "::" inner.path ++ ")\n"
      else if Inheritance.flatten interfaces inner.interface = [] then
        "JSONIFY_EMPTY(" ++ String.intercalate "::" inner.path ++ ")\n"
      else
        "JSONIFY(" ++ String.intercalate "::" inner.path ++ ", " ++
          String.intercalate ", " (Inheritance.flatten interfaces inner.interface) ++ ")\n" := by
  simp only [Bound.binding, isForward_iff]
  split
  · rfl
  · split
    · rename_i noFields
      rw [if_pos noFields]
      rfl
    · rename_i someFields
      rw [if_neg someFields]
      rfl

/-- The lines of an interface are those of the structures with bindings in it. -/
theorem interfaceText_eq (options : Options) (interfaces : List Interface)
    (interface : Interface) :
    Bindings.interfaceText options interfaces interface =
      (if interface.scopedName ∈ options.forwardDeclared then "" else "\n") ++
        String.join ((bound options [] interface).map fun inner =>
          (inner.binding options interfaces).line) := by
  simp only [Bindings.interfaceText, Bindings.interfaceBindings, isForward_iff, List.map_map,
    Function.comp_def]

/-- The structures with bindings are the declared ones outside the announced ones, each as often
as it is declared. -/
theorem map_placed_perm {model : Model}
    (unmarked : ∀ interface ∈ model.interfaces, Marker.IsUnmarked interface.name)
    {declared : List Declaration} (succeeded : declarations options model = .ok declared) :
    ((model.interfaces.flatMap (bound options [])).map (Bound.placed (.ofModel model))).Perm
      (Struct.postorderOfAll options.forwardDeclared [] (topStructs declared)) := by
  have sameStructs : (model.interfaces.flatMap (bound options [])).map
      (Bound.placed (.ofModel model)) =
        (model.interfaces.map (structOf (.ofModel model))).flatMap
          (Struct.postorder options.forwardDeclared []) := by
    rw [List.map_flatMap, List.flatMap_map]
    refine List.flatMap_congr fun interface member => ?_
    exact map_placed_bound_top (Marker.strip_of_isUnmarked (unmarked interface member))
  rw [sameStructs, postorderOfAll_eq_flatMap]
  exact (topStructs_perm succeeded).symm.flatMap_right _

/-- A path has a line for each structure that is declared there. -/
theorem count_scopedPath {model : Model}
    (unmarked : ∀ interface ∈ model.interfaces, Marker.IsUnmarked interface.name)
    {declared : List Declaration} (succeeded : declarations options model = .ok declared)
    (path : String) :
    ((model.interfaces.flatMap (bound options [])).map fun inner =>
        String.intercalate "::" inner.path).count path =
      ((Struct.postorderOfAll options.forwardDeclared [] (topStructs declared)).map fun placed =>
        String.intercalate "::" placed.1).count path := by
  have samePaths := (map_placed_perm unmarked succeeded).map fun placed =>
    String.intercalate "::" placed.1
  rw [List.map_map] at samePaths
  exact samePaths.count_eq path

/-- For every model whose top-level interfaces have names without markers, and for all options:
the bindings have one line for each structure that is declared outside the announced ones. -/
theorem bindings_cover_declared (options : Options) (model : Model)
    (unmarked : ∀ interface ∈ model.interfaces, Marker.IsUnmarked interface.name) :
    CoversDeclared options model := by
  constructor
  case lines =>
    rw [body, List.map_congr_left fun interface _ =>
      interfaceText_eq options model.interfaces interface]
  case childrenFirst => exact bound_eq options
  case announced =>
    intro inner isAnnounced
    rw [line_binding, if_pos isAnnounced]
  case empty =>
    intro inner notAnnounced noFields
    rw [line_binding, if_neg notAnnounced, if_pos noFields]
  case fields =>
    intro inner notAnnounced someFields
    rw [line_binding, if_neg notAnnounced, if_neg someFields]
  case declared =>
    intro interface member
    exact map_placed_bound_top (Marker.strip_of_isUnmarked (unmarked interface member))
  case once =>
    intro declared succeeded path
    exact count_scopedPath unmarked succeeded path

/-- An interface with an announced structure and another one inside it, each with a structure of
its own. -/
def layeredInterface : Interface :=
  { name := "Outer"
    children :=
      [{ name := "SelectionRange?", children := [{ name := "hidden" }] },
        { name := "readonly inner", children := [{ name := "leaf" }] }] }

/-- The lines of the inner structures come first, and what stands inside the announced one has
none. -/
theorem layered_structures_are_bound :
    (∀ interface ∈ [layeredInterface], Marker.IsUnmarked interface.name) ∧
      (bound {} [] layeredInterface).map Bound.path =
        [["Outer", "SelectionRange"], ["Outer", "inner", "leaf"], ["Outer", "inner"],
          ["Outer"]] ∧
      ∃ declared, declarations {} { interfaces := [layeredInterface] } = .ok declared ∧
        ((Struct.postorderOfAll ({} : Options).forwardDeclared [] (topStructs declared)).map
          fun placed => String.intercalate "::" placed.1).count "Outer::inner" = 1 := by
  have unmarked : ∀ interface ∈ [layeredInterface], Marker.IsUnmarked interface.name := by
    decide +kernel
  have covers := bindings_cover_declared {} { interfaces := [layeredInterface] } unmarked
  obtain ⟨declared, succeeded⟩ : ∃ declared,
      declarations {} { interfaces := [layeredInterface] } = .ok declared :=
    Declarations.exists_declarations_of_isOk {} (by decide +kernel)
  refine ⟨unmarked, by decide +kernel, declared, succeeded, ?_⟩
  rw [← covers.once declared succeeded]
  decide +kernel

/-- A model with two interfaces of one name. -/
def twinModel : Model :=
  { interfaces := [{ name := "Twin" }, { name := "Twin" }] }

/-- Both are declared under one path, and this path has two lines. -/
theorem path_of_twins_is_bound_twice :
    (∀ interface ∈ twinModel.interfaces, Marker.IsUnmarked interface.name) ∧
      (∃ declared, declarations {} twinModel = .ok declared ∧
        ((Struct.postorderOfAll ({} : Options).forwardDeclared [] (topStructs declared)).map
          fun placed => String.intercalate "::" placed.1).count "Twin" = 2) ∧
      ((twinModel.interfaces.flatMap (bound {} [])).map fun inner =>
        String.intercalate "::" inner.path).count "Twin" = 2 ∧
      body {} twinModel = "\nJSONIFY_EMPTY(Twin)\n\nJSONIFY_EMPTY(Twin)\n" := by
  have unmarked : ∀ interface ∈ twinModel.interfaces, Marker.IsUnmarked interface.name := by
    decide +kernel
  have twoLines : ((twinModel.interfaces.flatMap (bound {} [])).map fun inner =>
      String.intercalate "::" inner.path).count "Twin" = 2 := by decide +kernel
  obtain ⟨declared, succeeded⟩ : ∃ declared, declarations {} twinModel = .ok declared :=
    Declarations.exists_declarations_of_isOk {} (by decide +kernel)
  refine ⟨unmarked, ⟨declared, succeeded, ?_⟩, twoLines, by cbv⟩
  rw [← count_scopedPath unmarked succeeded, twoLines]

end ProtocolHeaders.Header
