import CatalogReplication.Lock.Manager
import CatalogReplication.Task.Builder
import CatalogReplication.Task.ConflictPolicy
import CatalogReplication.Trace.Hook
import CatalogReplication.Transfer.Options

/-!
# Components

What a configuration is made of: catalogs, carriers of data, builders, conflict policies, lock
managers and trace hooks. A component is shown as its class with its settings.
-/

namespace CatalogReplication

/-- A component that hears no events. -/
inductive Part where
  /-- A keyed catalog, by the number that it was opened with. -/
  | keyedCatalog (id : Nat)
  | relationalCatalog (id : Nat) (url : String) (schema : Value)
  | carrier (o : Transfer.Options)
  | builder (b : Builder)
  | policy (p : ConflictPolicy)
  | noLocks
  | processLocks (timeout : Value)
  | serviceLocks (basePath : String) (client : List (String × Value))

namespace Part

/-- The class of a part. -/
def className : Part → String
  | keyedCatalog _ => "DictCatalog"
  | relationalCatalog _ _ _ => "SQLCatalog"
  | carrier _ => "FsspecDirectoryReconciler"
  | builder _ => "DefaultDestinationBuilder"
  | policy .logging => "LoggingConflictPolicy"
  | policy .raising => "RaisingConflictPolicy"
  | noLocks => "NoLockManager"
  | processLocks _ => "ThreadLockManager"
  | serviceLocks _ _ => "ZooKeeperLockManager"

/-- The settings of a part. -/
def settings : Part → List (String × Value)
  | relationalCatalog _ url schema => [("url", .text url), ("schema", schema)]
  | carrier o =>
    [("tmp_root", o.scratchRoot), ("storage_options", o.storage), ("block_size", o.blockSize)]
  | builder b => [("preserve_parameter_prefixes", .list b.preserved)]
  | processLocks timeout => [("timeout", timeout)]
  | serviceLocks basePath client => [("base_path", .text basePath), ("client_args", .map client)]
  | _ => []

/-- The number of a catalog. -/
def catalogId? : Part → Option Nat
  | keyedCatalog id => some id
  | relationalCatalog id _ _ => some id
  | _ => none

/-- How a lock manager locks. -/
def flavour? : Part → Option Lock.Flavour
  | noLocks => some .none
  | processLocks timeout => some (.process timeout.isNull)
  | serviceLocks basePath _ => some (.service { basePath })
  | _ => none

/-- How a carrier carries. -/
def carrier? : Part → Option Transfer.Options
  | carrier o => some o
  | _ => none

/-- The builder that a part is. -/
def builder? : Part → Option Builder
  | builder b => some b
  | _ => none

/-- The policy that a part is. -/
def policy? : Part → Option ConflictPolicy
  | policy p => some p
  | _ => none

end Part

/-- A component. -/
inductive Component where
  | part (p : Part)
  | hook (h : Hook Part)

namespace Component

/-- A class with settings as a value. -/
def shown (className : String) (settings : List (String × Value)) : Value :=
  .map (("class", .text className) :: settings)

/-- A part as a value. -/
def showPart (p : Part) : Value := shown p.className p.settings

mutual

/-- A hook as a value. -/
def showHook : Hook Part → Value
  | .silent => shown "TraceHook" []
  | .logging => shown "PrintTraceHook" []
  | .recording _ => shown "RecordingTraceHook" []
  | .several hooks => shown "MultiTraceHook" [("hooks", .list (showHooks hooks))]
  | .stranger p => showPart p

/-- Hooks as values. -/
def showHooks : List (Hook Part) → List Value
  | [] => []
  | h :: rest => showHook h :: showHooks rest

end

/-- A component as a value. -/
def toValue : Component → Value
  | part p => showPart p
  | hook h => showHook h

/-- A component in the place of a hook. -/
def asHook : Component → Hook Part
  | part p => .stranger p
  | hook h => h

/-- A hook as a component. -/
def ofHook : Hook Part → Component
  | .stranger p => part p
  | h => hook h

/-- The part that a component is. -/
def part? : Component → Option Part
  | part p => some p
  | hook _ => none

end Component

end CatalogReplication
