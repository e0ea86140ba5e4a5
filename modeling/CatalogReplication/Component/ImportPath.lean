import CatalogReplication.Component.Package
import CatalogReplication.Failure
import CatalogReplication.Text.Cut

/-!
# Import paths

An import path is a text of names with points between them. It leads to a module as far as there
are modules, and from there to a definition by the remaining names. Names outside of any module are
looked up among those that are always there.
-/

namespace CatalogReplication.Component

/-- Names with points between them. -/
def dotted (names : List String) : String := ".".intercalate names

/-- The module whose definitions are always there. -/
def builtinModule : List String := ["builtins"]

/-- How what a path leads to is shown. -/
def Importable.text : Importable → String
  | .module path => "module " ++ dotted path
  | .definition path names => dotted path ++ ":" ++ dotted names

namespace ModuleEntry

/-- The names on the way to a module. -/
def fullPath (m : ModuleEntry) : List String := packageRoot ++ m.path

/-- What a module defines under a name. -/
def definition? (name : String) (m : ModuleEntry) : Option Importable :=
  if m.functions.contains name || m.classes.any fun c => c.name == name then
    some (.definition m.fullPath [name])
  else if m.values.contains name then some (.definition [] [])
  else m.others.lookup name

end ModuleEntry

namespace ClassEntry

/-- What a class in a module defines itself under a name. -/
def definition? (m : ModuleEntry) (name : String) (c : ClassEntry) : Option Importable :=
  if c.methods.contains name then some (.definition m.fullPath [c.name, name])
  else if c.fields.contains name then some (.definition [] [c.name, name])
  else if c.values.contains name then some (.definition [] [])
  else if c.cases.contains name then some (.definition m.fullPath [])
  else if c.kept.contains name then some (.definition ["functools"] [])
  else c.others.lookup name

end ClassEntry

/-- The class that all classes come from in the end. -/
def rootClass : String := "object"

/-- The methods of the root of all classes. -/
def rootMethods : List String :=
  ["__init__", "__repr__", "__str__", "__hash__", "__eq__", "__ne__", "__lt__", "__le__", "__gt__",
   "__ge__", "__getattribute__", "__setattr__", "__delattr__"]

/-- The names of a path; empty ones don't count. -/
def pathNames (path : String) : List String :=
  ((Text.segments '.' path.toList).filter fun name => !name.isEmpty).map String.ofList

/-- Whether names lead to a module. -/
def isModule (names : List String) : Bool :=
  names.isEmpty || names == builtinModule || names.isPrefixOf packageRoot
    || modules.any fun m => m.fullPath == names

/-- Cuts names where the modules end, beginning behind `done`. -/
def splitFrom (done : List String) : List String → List String × List String
  | [] => (done, [])
  | name :: rest =>
    if isModule (done ++ [name]) then splitFrom (done ++ [name]) rest else (done, name :: rest)

/-- What a module has under a name. -/
def nameIn? (names : List String) (name : String) : Option Importable := do
  let m ← modules.find? fun m => m.fullPath == names
  match m.definition? name with
  | some i => some i
  | none => if m.taken.contains name then modules.findSome? (·.definition? name) else none

/-- The class of a name, and the module that defines it. -/
def classEntry? (name : String) : Option (ModuleEntry × ClassEntry) :=
  modules.findSome? fun m => (m.classes.find? fun c => c.name == name).map fun c => (m, c)

/-- What a class has under a name, looked for in at most `depth` generations. -/
def memberOf? (member : String) : Nat → String → Option Importable
  | 0, _ => none
  | depth + 1, name => do
    let (m, c) ← classEntry? name
    match c.definition? m member, c.parent with
    | some i, _ => some i
    | none, some parent => memberOf? member depth parent
    | none, none =>
      if rootMethods.contains member then some (.definition [] [rootClass, member]) else none

/-- How many generations of classes there are at most. -/
def generations : Nat := modules.foldl (fun n m => n + m.classes.length) 0

/-- What names inside a module lead to. -/
def definition? (path : List String) : List String → Option Importable
  | [] => some (.module path)
  | [name] =>
    if path.isEmpty || path == builtinModule then
      if name == "len" then some (.definition builtinModule [name]) else none
    else nameIn? path name
  | [name, member] => do
    let _ ← nameIn? path name
    let _ ← classEntry? name
    memberOf? member generations name
  | _ => none

/-- What an import path leads to. -/
def Importable.ofPath (path : String) : Except Failure Importable :=
  let (home, names) := splitFrom [] (pathNames path)
  let found :=
    if home.isEmpty && names.isEmpty then some (.module builtinModule)
    else definition? home names
  match found with
  | some i => .ok i
  | none => .error .member

end CatalogReplication.Component
