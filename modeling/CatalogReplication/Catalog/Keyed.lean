import CatalogReplication.Assoc
import CatalogReplication.Catalog.Stamping
import CatalogReplication.Failure

/-!
# Keyed catalogs

A catalog that keeps its records under their names and specs. Tables and partitions are numbered by
one counter. A request that is rejected changes nothing.
-/

namespace CatalogReplication.Catalog

/-- A catalog of records under their names and specs. -/
structure Keyed where
  databases : Assoc String DatabaseRecord := []
  tables : Assoc Spec TableRecord := []
  partitions : Assoc Spec PartitionRecord := []
  /-- The last number that was given to a record. -/
  lastId : Nat := 0
deriving Repr, Inhabited

namespace Keyed

/-- Adds a table. -/
def createTable (now : Int) (t : TableRecord) (c : Keyed) : Except Error Keyed :=
  if !Assoc.hasKey t.database c.databases then .error (.databaseMissing t.database)
  else if Assoc.hasKey t.spec c.tables then .error (.tableExists t.spec)
  else
    let id := c.lastId + 1
    .ok { c with tables := Assoc.put t.spec (stamp now id none t) c.tables, lastId := id }

/-- Replaces a table. -/
def alterTable (now : Int) (t : TableRecord) (c : Keyed) : Except Error Keyed :=
  match c.tables.lookup t.spec with
  | none => .error (.tableMissing t.spec)
  | some stored =>
    let s := stored.body.stamp
    let record := stamp now (s.catalogId.getD 0) s.createTime t
    .ok { c with tables := Assoc.put t.spec record c.tables }

/-- Adds a partition to a table. -/
def addPartition (now : Int) (p : PartitionRecord) (c : Keyed) : Except Error Keyed :=
  if !Assoc.hasKey p.spec.tableSpec c.tables then .error (.parentMissing p.spec.tableSpec)
  else if Assoc.hasKey p.spec c.partitions then .error (.partitionExists p.spec)
  else
    let id := c.lastId + 1
    .ok { c with partitions := Assoc.put p.spec (stamp now id none p) c.partitions, lastId := id }

/-- Replaces what is stored for the spec of a partition, whatever the new record says it is. -/
def alterPartition (now : Int) (spec : Spec) (p : PartitionRecord) (c : Keyed) :
    Except Error Keyed :=
  match c.partitions.lookup spec with
  | none => .error (.partitionMissing spec)
  | some stored =>
    let s := stored.body.stamp
    let record := stamp now (s.catalogId.getD 0) s.createTime p
    .ok { c with partitions := Assoc.put spec record c.partitions }

/-- The names of the partitions of a table, in increasing order. -/
def partitionNames (spec : Spec) (c : Keyed) : List String :=
  let names := (Assoc.keys c.partitions).filterMap fun s =>
    if s.tableSpec = spec.tableSpec then s.partition else none
  names.mergeSort fun a b => !decide (b < a)

/-- The answer to a change, and the catalog after it. -/
def changed (c : Keyed) : Except Error Keyed → Except Failure Unit × Keyed
  | .ok c' => (.ok (), c')
  | .error e => (.error (.catalog e), c)

/-- Answers a request. -/
def serve (now : Int) : (r : Request) → Keyed → Except Failure r.Answer × Keyed
  | .getDatabase name, c => (.ok (c.databases.lookup name), c)
  | .createDatabaseIfAbsent d, c =>
    if Assoc.hasKey d.name c.databases then (.ok false, c)
    else (.ok true, { c with databases := Assoc.put d.name d c.databases })
  | .getTable spec, c => (.ok (c.tables.lookup spec.tableSpec), c)
  | .createTable t, c => c.changed (c.createTable now t)
  | .alterTable t, c => c.changed (c.alterTable now t)
  | .getPartition spec, c => (.ok (c.partitions.lookup spec), c)
  | .addPartition p, c => c.changed (c.addPartition now p)
  | .alterPartition spec p, c => c.changed (c.alterPartition now spec p)
  | .listPartitionNames spec, c => (.ok (c.partitionNames spec), c)

/-- The catalog after a change that failed when its record was to be stamped: of a new record the
number is used up. -/
def unstamped (r : Request) (c : Keyed) : Keyed :=
  if r.isNumbered then { c with lastId := c.lastId + 1 } else c

/-- Takes a table or a partition away. -/
def vanish (spec : Spec) (c : Keyed) : Option Keyed :=
  if spec.isPartition then
    if Assoc.hasKey spec c.partitions then
      some { c with partitions := Assoc.erase spec c.partitions }
    else none
  else if Assoc.hasKey spec c.tables then some { c with tables := Assoc.erase spec c.tables }
  else none

end Keyed

end CatalogReplication.Catalog
