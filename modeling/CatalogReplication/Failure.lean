import CatalogReplication.Catalog.Error
import CatalogReplication.Config.Error
import CatalogReplication.Lock.Error
import CatalogReplication.PartitionName
import CatalogReplication.Transfer.Error
import CatalogReplication.Value.Display

/-!
# Failures

Everything that can end an operation. Failures of replication itself have a wording; so have a few
more that are told to whoever called. The rest say only what kind of mistake they are.
-/

namespace CatalogReplication

/-- An object of the destination that may not be overwritten. -/
structure Conflict where
  spec : Spec
  destination : String
  source : String
deriving DecidableEq, Repr

/-- The wording of a conflict. -/
def Conflict.message (c : Conflict) : String :=
  s!"'{c.spec.text}' exists on '{c.destination}' but wasn't replicated from '{c.source}'"

/-- What ends an operation. -/
inductive Failure where
  /-- A failure of replication, reported in words. -/
  | replication (text : String)
  | catalog (e : Catalog.Error)
  | transfer (e : Transfer.Error)
  | conflict (c : Conflict)
  /-- A conflict reported in words. -/
  | conflictReported (text : String)
  | lock (e : Lock.Error)
  | config (e : Config.Error)
  /-- A configuration error with the failure that led to it. -/
  | configBy (e : Config.Error) (cause : Failure)
  /-- A component is used after it was disposed of. -/
  | disposed (component : String)
  /-- Use after disposal, reported in words. -/
  | disposedReported (text : String)
  | spec (e : Spec.Error)
  | partitionName (name : String)
  /-- The authority of a location can't be read. -/
  | authority
  /-- A location names a disk that isn't there. -/
  | scheme
  | negativeSize
  | unknownEvent
  | notCallable
  | ambiguousConfig
  | fileMissing (path : String)
  | noConfigFile
  /-- Two layers of a configuration don't fit. -/
  | layers
  /-- Unknown, missing or misshapen arguments. -/
  | arguments
  /-- Something is asked for a part that it doesn't have. -/
  | member
  | keyMissing
  | outsideContext
  | databaseUrl
  | frozenAttributes
  | attributeMissing
  | frozenContext
  | requirement
  /-- A file call failed. -/
  | storage
  /-- The store behind a catalog can't be read. -/
  | unreadable
  /-- A fault of another kind, by its name. -/
  | other (kind : String)
deriving Repr

namespace Failure

/-- The wording of a failure, if it has one. -/
def message? : Failure → Option String
  | .replication text => some text
  | .catalog e => some e.message
  | .transfer e => some e.message
  | .conflict c => some c.message
  | .conflictReported text => some text
  | .lock e => some e.message
  | .config e => some e.message
  | .configBy e _ => some e.message
  | .disposed component => some s!"Object of type <class '{component}'> has already been disposed."
  | .disposedReported text => some text
  | .spec e => some e.message
  | .partitionName name => some (PartitionName.invalidMessage name)
  | .notCallable => some "Listener must be callable."
  | .ambiguousConfig => some "Exactly one of `path` and `config_dict` is required"
  | .fileMissing path => some ("[Errno 2] No such file or directory: " ++ Text.literal path)
  | .noConfigFile => some "No config file found"
  | .layers => some "deep_merge failed due to type mismatch"
  | _ => none

/-- Whether a failure is one of replication itself. -/
def isReplication : Failure → Bool
  | .replication _ | .catalog _ | .transfer _ | .conflict _ | .conflictReported _ | .lock _
  | .config _ | .configBy _ _ => true
  | _ => false

/-- Whether a failure is one of the file system. -/
def isStorage : Failure → Bool
  | .storage | .fileMissing _ => true
  | _ => false

/-- The failures of replication that led to a configuration error, the latest first. -/
def causes : Failure → List Failure
  | .configBy _ cause => if cause.isReplication then cause :: cause.causes else []
  | _ => []

end Failure

end CatalogReplication
