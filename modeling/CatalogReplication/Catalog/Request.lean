import CatalogReplication.Record.Basic

/-!
# Catalog requests

What can be asked of a catalog. Look-ups answer with nothing if an object isn't there.
-/

namespace CatalogReplication.Catalog

/-- A request to a catalog. -/
inductive Request where
  | getDatabase (name : String)
  /-- The answer says whether the database was created. -/
  | createDatabaseIfAbsent (database : DatabaseRecord)
  | getTable (spec : Spec)
  | createTable (table : TableRecord)
  | alterTable (table : TableRecord)
  | getPartition (spec : Spec)
  | addPartition (partition : PartitionRecord)
  | alterPartition (spec : Spec) (partition : PartitionRecord)
  | listPartitionNames (spec : Spec)
deriving DecidableEq, Repr

namespace Request

/-- What answers a request. -/
abbrev Answer : Request → Type
  | .getDatabase _ => Option DatabaseRecord
  | .createDatabaseIfAbsent _ => Bool
  | .getTable _ => Option TableRecord
  | .createTable _ => Unit
  | .alterTable _ => Unit
  | .getPartition _ => Option PartitionRecord
  | .addPartition _ => Unit
  | .alterPartition _ _ => Unit
  | .listPartitionNames _ => List String

/-- The name of a request. -/
def name : Request → String
  | .getDatabase _ => "get_database"
  | .createDatabaseIfAbsent _ => "create_database_if_absent"
  | .getTable _ => "get_table"
  | .createTable _ => "create_table"
  | .alterTable _ => "alter_table"
  | .getPartition _ => "get_partition"
  | .addPartition _ => "add_partition"
  | .alterPartition _ _ => "alter_partition"
  | .listPartitionNames _ => "list_partition_names"

/-- The names of all requests. -/
def names : List String :=
  ["get_database", "create_database_if_absent", "get_table", "create_table", "alter_table",
   "get_partition", "add_partition", "alter_partition", "list_partition_names"]

/-- Whether a request is for a change of a record that is stamped. -/
def isStamped : Request → Bool
  | .createTable _ | .alterTable _ | .addPartition _ | .alterPartition _ _ => true
  | _ => false

/-- Whether a request is for a new record that is numbered. -/
def isNumbered : Request → Bool
  | .createTable _ | .addPartition _ => true
  | _ => false

end Request

end CatalogReplication.Catalog
