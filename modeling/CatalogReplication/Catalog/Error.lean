import CatalogReplication.Spec

/-!
# Catalog errors

Why a catalog rejects a request. That an object isn't there is no error of a look-up.
-/

namespace CatalogReplication.Catalog

/-- Why a catalog rejects a request. -/
inductive Error where
  | databaseMissing (name : String)
  | tableExists (table : Spec)
  | tableMissing (table : Spec)
  /-- The table of a new partition isn't there. -/
  | parentMissing (table : Spec)
  | partitionExists (partition : Spec)
  | partitionMissing (partition : Spec)
  /-- The store behind the catalog failed during the named operation. -/
  | unavailable (operation : String)
  /-- During the named operation, what should be a database turned out to be something else. -/
  | foreign (operation : String)
  /-- A fault reported in words. -/
  | reported (text : String)
deriving DecidableEq, Repr

/-- The wording of an error. -/
def Error.message : Error → String
  | .databaseMissing name => s!"Database '{name}' doesn't exist"
  | .tableExists table => s!"Table '{table.text}' already exists"
  | .tableMissing table => s!"Table '{table.text}' doesn't exist"
  | .parentMissing table => s!"Table '{table.text}' of partition doesn't exist"
  | .partitionExists partition => s!"Partition '{partition.text}' already exists"
  | .partitionMissing partition => s!"Partition '{partition.text}' doesn't exist"
  | .unavailable operation => s!"Catalog operation '{operation}' failed: OperationalError"
  | .foreign operation => s!"Catalog operation '{operation}' failed: DatabaseError"
  | .reported text => text

end CatalogReplication.Catalog
