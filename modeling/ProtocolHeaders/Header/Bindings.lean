import ProtocolHeaders.Header.Source
import ProtocolHeaders.Inheritance

/-!
# The header of serialization bindings

Enumerations that are sent as strings get a table of their values. Each structure
gets a line with its own and inherited fields, nested structures before the one
around them. A structure to be announced only gets a line that says so, and the
structures inside it get none.
-/

namespace ProtocolHeaders.Header.Bindings

open Log (Event)

/-- The row of a value in the table of its enumeration. -/
def valueRow (enumeration : String) (value : EnumerationValue) : String :=
  "    \x7b" ++ enumeration ++ "::" ++ value.name ++ ", " ++ quote value.value ++ "\x7d,\n"

/-- The table of an enumeration. -/
def enumerationTable (enumeration : Enumeration) : String :=
  "\nJSONIFY_ENUM( " ++ enumeration.name ++ ", \x7b\n" ++
    String.join (enumeration.values.map (valueRow enumeration.name)) ++ "\x7d)\n"

/-- The binding of a structure, which is named by its path. -/
inductive Binding where
  /-- The structure is announced only. -/
  | forward (path : String)
  /-- The structure has no fields. -/
  | empty (path : String)
  | fields (path : String) (names : List String)
deriving Repr, DecidableEq

/-- The line of a binding. -/
def Binding.line : Binding -> String
  | forward path => "\nJSONIFY_FWD(" ++ path ++ ")\n"
  | empty path => "JSONIFY_EMPTY(" ++ path ++ ")\n"
  | fields path names => "JSONIFY(" ++ path ++ ", " ++ String.intercalate ", " names ++ ")\n"

/-- A structure that has a binding, with the names of the structures around it,
outermost first, and its own. -/
structure Bound where
  path : List String
  interface : Interface
deriving Repr

/-- Whether a structure is announced only. -/
def isForward (options : Options) (interface : Interface) : Bool :=
  options.forwardDeclared.contains interface.scopedName

mutual

/-- The structures with bindings in a structure, each behind those inside it. -/
def bound (options : Options) (parent : List String) : Interface -> List Bound
  | ⟨name, documentation, bases, properties, children, dependencies, since, deprecated⟩ =>
      let interface : Interface :=
        ⟨name, documentation, bases, properties, children, dependencies, since, deprecated⟩
      let path := parent ++ [Marker.strip name]
      (if isForward options interface then [] else boundInAll options path children) ++
        [⟨path, interface⟩]

/-- The structures with bindings in several structures. -/
def boundInAll (options : Options) (parent : List String) : List Interface -> List Bound
  | [] => []
  | interface :: others => bound options parent interface ++ boundInAll options parent others

end

namespace Bound

/-- The name of a structure in the bindings. -/
def scopedPath (inner : Bound) : String :=
  String.intercalate "::" inner.path

/-- The binding of a structure of a model with given top-level interfaces. -/
def binding (options : Options) (interfaces : List Interface) (inner : Bound) : Binding :=
  if isForward options inner.interface then .forward inner.scopedPath
  else
    match Inheritance.flatten interfaces inner.interface with
    | [] => .empty inner.scopedPath
    | names => .fields inner.scopedPath names

/-- What finding the binding of a structure reports. -/
def events (options : Options) (interfaces : List Interface) (inner : Bound) : List Event :=
  if isForward options inner.interface then [.forwardDeclared inner.scopedPath]
  else Inheritance.events interfaces inner.interface

end Bound

/-- The bindings of a top-level structure and of the structures inside it. -/
def interfaceBindings (options : Options) (interfaces : List Interface) (interface : Interface) :
    List Binding :=
  (bound options [] interface).map (Bound.binding options interfaces)

/-- The lines of a top-level structure, set off by a blank line. -/
def interfaceText (options : Options) (interfaces : List Interface) (interface : Interface) :
    String :=
  (if isForward options interface then "" else "\n") ++
    String.join ((interfaceBindings options interfaces interface).map Binding.line)

/-- The tables and lines of a model. -/
def body (options : Options) (model : Model) : String :=
  String.join ((model.enumerations.filter Enumeration.isString).map enumerationTable) ++
    String.join (model.interfaces.map (interfaceText options model.interfaces))

/-- The header of serialization bindings. -/
def render (options : Options) (model : Model) : String :=
  source options ["\"json.h\"", localInclude options.declarationsFile] (body options model)

/-- What the bindings report, structure by structure. -/
def events (options : Options) (model : Model) : List Event :=
  (boundInAll options [] model.interfaces).flatMap (Bound.events options model.interfaces)

end ProtocolHeaders.Header.Bindings
