import CatalogReplication.Catalog.Handle
import CatalogReplication.Component.Basic
import CatalogReplication.Component.ImportPath
import CatalogReplication.Lock.NodeName
import CatalogReplication.Program

/-!
# Loading components

A section of a configuration describes a component: the import path of its class and its arguments.
Loading it makes the component. Catalogs are opened on the way, and lock managers of a service ask
for the name of the instance, so loading is a program whose calls are these.
-/

namespace CatalogReplication

namespace Component

/-- What loading asks for. -/
inductive Call where
  | openKeyed
  | openRelational (o : Catalog.Opening)
  /-- The name of the instance whose block is entered. -/
  | instanceId
deriving Repr

/-- What answers a call. -/
abbrev Call.Answer : Call → Type
  | .openKeyed => Nat
  | .openRelational _ => Nat
  | .instanceId => String

/-- A procedure that loads something. -/
abbrev Load (α : Type) := Program Call Call.Answer Empty Failure α

open Program

/-- Arguments by their names. -/
abbrev Arguments := Assoc String Value

/-- Refuses arguments with other names. -/
def accept (names : List String) (args : Arguments) : Load Unit :=
  if args.all fun a => names.contains a.1 then .done () else .fail .arguments

/-- An argument with a default. -/
def argument (name : String) (default : Value) (args : Arguments) : Value :=
  (args.lookup name).getD default

/-- A component without arguments. -/
def plain (c : Component) (args : Arguments) : Load Component := do
  accept [] args
  return c

/-- Opens a keyed catalog. -/
def loadKeyed (args : Arguments) : Load Component := do
  accept [] args
  let id ← perform .openKeyed
  return .part (.keyedCatalog id)

/-- Opens a relational catalog. -/
def loadRelational (args : Arguments) : Load Component :=
  match args.lookup "url" with
  | none => .fail .keyMissing
  | some url => do
    accept ["url", "schema"] args
    let schema := argument "schema" .null args
    let (opening, url) ← .ofExcept (Catalog.Opening.ofValues url schema)
    let id ← perform (.openRelational opening)
    return .part (.relationalCatalog id url.text schema)

/-- Makes a carrier of data. -/
def loadCarrier (args : Arguments) : Load Component := do
  return .part (.carrier (← .ofExcept (Transfer.Options.ofArguments args)))

/-- Makes a builder. -/
def loadBuilder (args : Arguments) : Load Component := do
  accept ["preserve_parameter_prefixes"] args
  let b ← .ofExcept (Builder.ofValue (argument "preserve_parameter_prefixes" (.list []) args))
  return .part (.builder b)

/-- Makes a manager of the locks of this process. -/
def loadProcessLocks (args : Arguments) : Load Component := do
  accept ["timeout"] args
  return .part (.processLocks (argument "timeout" .null args))

/-- Makes a manager of the locks of a service, below the path of the instance. -/
def loadServiceLocks (args : Arguments) : Load Component := do
  let id ← perform .instanceId
  return .part (.serviceLocks (Lock.basePath id) args)

/-- Loads components one after the other. -/
def inOrder : List (Load Component) → Load (List Component)
  | [] => .done []
  | p :: rest => do
    let c ← p
    let cs ← inOrder rest
    return c :: cs

/-- Makes a hook of several. -/
def loadSeveral (args : Arguments) (hooks : List (Load Component)) : Load Component :=
  let given := argument "hooks" .null args
  match given.truthy, given with
  | false, _ => .done (.hook (.several []))
  | true, .list _ => do
    let cs ← inOrder hooks
    return .hook (.several (cs.map asHook))
  | true, _ => .fail (.config .hooksNotList)

/-- Makes a component of a class; `hooks` load those among the arguments. What can't be instantiated
doesn't take any arguments. -/
def construct (className : String) (args : Arguments) (hooks : List (Load Component)) :
    Load Component :=
  match className with
  | "DictCatalog" => loadKeyed args
  | "SQLCatalog" => loadRelational args
  | "FsspecDirectoryReconciler" => loadCarrier args
  | "DefaultDestinationBuilder" => loadBuilder args
  | "LoggingConflictPolicy" => plain (.part (.policy .logging)) args
  | "RaisingConflictPolicy" => plain (.part (.policy .raising)) args
  | "NoLockManager" => plain (.part .noLocks) args
  | "ThreadLockManager" => loadProcessLocks args
  | "ZooKeeperLockManager" => loadServiceLocks args
  | "TraceHook" => plain (.hook .silent) args
  | "PrintTraceHook" => plain (.hook .logging) args
  | "RecordingTraceHook" => plain (.hook (.recording [])) args
  | "MultiTraceHook" => loadSeveral args hooks
  | _ => .fail .arguments

/-- The class that a section names, if it is one that can be instantiated. -/
def classOf : Value → Load (Option String)
  | .text path =>
    match Importable.ofPath path with
    | .error _ => .fail (.config (.notImportable path))
    | .ok (.definition _ [name]) => .done (some name)
    | .ok _ => .done none
  | _ => .done none

/-- The arguments of a section. -/
def argumentsOf (fields : Assoc String Value) : Load Arguments :=
  match (fields.lookup "args").getD .null with
  | .map args => .done args
  | v => if v.truthy then .fail (.config .argumentsNotMapping) else .done []

/-- Loads the component that the entries of a section describe. -/
def loadFields (fields : Assoc String Value) (hooks : List (Load Component)) : Load Component :=
  match fields.lookup "class" with
  | none => .fail (.config .noClass)
  | some cls => do
    let className ← classOf cls
    let args ← argumentsOf fields
    match className with
    | some name => construct name args hooks
    | none => .fail .arguments

mutual

/-- Loads the component that a section describes. -/
def load : Value → Load Component
  | .map fields => loadFields fields (loadHooksOfArguments fields)
  | _ => .fail (.config .noClass)

/-- Loads the hooks among the arguments in a section. -/
def loadHooksOfArguments : List (String × Value) → List (Load Component)
  | [] => []
  | (k, v) :: rest => if k == "args" then loadHooksIn v else loadHooksOfArguments rest

/-- Loads the hooks among arguments. -/
def loadHooksIn : Value → List (Load Component)
  | .map args => loadHooksOf args
  | _ => []

/-- Loads the hooks under their name. -/
def loadHooksOf : List (String × Value) → List (Load Component)
  | [] => []
  | (k, v) :: rest => if k == "hooks" then loadItems v else loadHooksOf rest

/-- Loads the items of a list. -/
def loadItems : Value → List (Load Component)
  | .list items => loadEach items
  | _ => []

/-- Loads sections. -/
def loadEach : List Value → List (Load Component)
  | [] => []
  | v :: rest => load v :: loadEach rest

end

end Component

end CatalogReplication
