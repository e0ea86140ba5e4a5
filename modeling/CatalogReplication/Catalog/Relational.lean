import CatalogReplication.Assoc
import CatalogReplication.Catalog.Stamping
import CatalogReplication.Record.Document

/-!
# Relational catalogs

A catalog that keeps rows in three tables of a database: the columns that identify a record beside
the record as a document. Tables and partitions are numbered each by themselves. Look-ups that a
change makes on its way are requests of their own, and fail under their own names.
-/

namespace CatalogReplication.Catalog

/-- A row of the tables or of the partitions. -/
structure Row where
  id : Nat
  spec : Spec
  document : Value
deriving Inhabited

/-- A catalog of rows. -/
structure Relational where
  databases : List (String × Value) := []
  tables : List Row := []
  partitions : List Row := []
  /-- Whether the tables of the database are gone. -/
  isBroken : Bool := false
deriving Inhabited

namespace Relational

/-- The fields of a document. -/
def fieldsOf : Value → Except Failure Fields
  | .map fields => .ok fields
  | _ => .error .arguments

/-- The row of a spec. -/
def row? (spec : Spec) (rows : List Row) : Option Row := rows.find? fun r => r.spec == spec

/-- Replaces the document of the row with a number. -/
def replaceDocument (id : Nat) (document : Value) (rows : List Row) : List Row :=
  rows.map fun r => if r.id == id then { r with document } else r

/-- The database record under a name. -/
def getDatabase (name : String) (c : Relational) : Except Failure (Option DatabaseRecord) :=
  match c.databases.lookup name with
  | none => .ok none
  | some document => do
    let d ← DatabaseRecord.ofFields (← fieldsOf document)
    return some d

/-- The table record of a spec. -/
def getTable (spec : Spec) (c : Relational) : Except Failure (Option TableRecord) :=
  match row? spec.tableSpec c.tables with
  | none => .ok none
  | some r => do
    let t ← TableRecord.ofFields (← fieldsOf r.document)
    return some t

/-- The partition record of a spec. -/
def getPartition (spec : Spec) (c : Relational) : Except Failure (Option PartitionRecord) :=
  match row? spec c.partitions with
  | none => .ok none
  | some r => do
    let p ← PartitionRecord.ofFields (← fieldsOf r.document)
    return some p

/-- Adds a table. -/
def createTable (now : Int) (t : TableRecord) (c : Relational) : Except Failure Relational := do
  match ← c.getDatabase t.database with
  | none => .error (.catalog (.databaseMissing t.database))
  | some _ =>
    if (row? t.spec c.tables).isSome then .error (.catalog (.tableExists t.spec))
    else
      let id := c.tables.length + 1
      let document := (stamp now id none t).document
      .ok { c with tables := c.tables ++ [{ id, spec := t.spec, document }] }

/-- Replaces a table. -/
def alterTable (now : Int) (t : TableRecord) (c : Relational) : Except Failure Relational :=
  match row? t.spec c.tables with
  | none => .error (.catalog (.tableMissing t.spec))
  | some r => do
    let stored ← TableRecord.ofFields (← fieldsOf r.document)
    let document := (stamp now r.id stored.body.stamp.createTime t).document
    return { c with tables := replaceDocument r.id document c.tables }

/-- Adds a partition to a table. -/
def addPartition (now : Int) (p : PartitionRecord) (c : Relational) :
    Except Failure Relational := do
  match ← c.getTable p.spec.tableSpec with
  | none => .error (.catalog (.parentMissing p.spec.tableSpec))
  | some _ =>
    if (row? p.spec c.partitions).isSome then .error (.catalog (.partitionExists p.spec))
    else
      let id := c.partitions.length + 1
      let document := (stamp now id none p).document
      .ok { c with partitions := c.partitions ++ [{ id, spec := p.spec, document }] }

/-- Replaces what is stored for the spec of a partition, whatever the new record says it is. -/
def alterPartition (now : Int) (spec : Spec) (p : PartitionRecord) (c : Relational) :
    Except Failure Relational :=
  match row? spec c.partitions with
  | none => .error (.catalog (.partitionMissing spec))
  | some r => do
    let stored ← PartitionRecord.ofFields (← fieldsOf r.document)
    let document := (stamp now r.id stored.body.stamp.createTime p).document
    return { c with partitions := replaceDocument r.id document c.partitions }

/-- The names of the partitions of a table, in increasing order. -/
def partitionNames (spec : Spec) (c : Relational) : List String :=
  let names := c.partitions.filterMap fun r =>
    if r.spec.tableSpec = spec.tableSpec then r.spec.partition else none
  names.mergeSort fun a b => !decide (b < a)

/-- The look-up that a change makes first. -/
def lookupFirst? : Request → Option Request
  | .createTable t => some (.getDatabase t.database)
  | .addPartition p => some (.getTable p.spec.tableSpec)
  | _ => none

/-- The name under which a request fails if the tables are gone: that of its first look-up. -/
def failingName (r : Request) : String :=
  match lookupFirst? r with
  | some first => first.name
  | none => r.name

/-- The answer to a change, and the catalog after it. -/
def changed (c : Relational) : Except Failure Relational → Except Failure Unit × Relational
  | .ok c' => (.ok (), c')
  | .error e => (.error e, c)

/-- Answers a request while the tables are there. -/
def serveWhole (now : Int) : (r : Request) → Relational → Except Failure r.Answer × Relational
  | .getDatabase name, c => (c.getDatabase name, c)
  | .createDatabaseIfAbsent d, c =>
    if (c.databases.lookup d.name).isSome then (.ok false, c)
    else (.ok true, { c with databases := c.databases ++ [(d.name, d.document)] })
  | .getTable spec, c => (c.getTable spec, c)
  | .createTable t, c => c.changed (c.createTable now t)
  | .alterTable t, c => c.changed (c.alterTable now t)
  | .getPartition spec, c => (c.getPartition spec, c)
  | .addPartition p, c => c.changed (c.addPartition now p)
  | .alterPartition spec p, c => c.changed (c.alterPartition now spec p)
  | .listPartitionNames spec, c => (.ok (c.partitionNames spec), c)

/-- Answers a request if rows can only be looked at. A change goes as far as its look-ups go. -/
def serveLooking (now : Int) (r : Request) (c : Relational) : Except Failure r.Answer :=
  let refused : Failure := .catalog (.unavailable r.name)
  match r with
  | .createDatabaseIfAbsent d =>
    if (c.databases.lookup d.name).isSome then .ok false else .error refused
  | .createTable t => do
    match ← c.getDatabase t.database with
    | none => .error (.catalog (.databaseMissing t.database))
    | some _ => .error refused
  | .addPartition p => do
    match ← c.getTable p.spec.tableSpec with
    | none => .error (.catalog (.parentMissing p.spec.tableSpec))
    | some _ => .error refused
  | .alterTable t => do
    let _ ← c.alterTable now t
    .error refused
  | .alterPartition spec p => do
    let _ ← c.alterPartition now spec p
    .error refused
  | r => (serveWhole now r c).1

/-- Whether a change gets as far as to stamp its record. -/
def stamps (now : Int) (isLocked : Bool) (r : Request) (c : Relational) : Bool :=
  !c.isBroken && r.isStamped && !(isLocked && r.isNumbered)
    && match (serveWhole now r c).1 with
      | .ok _ => true
      | .error _ => false

/-- Answers a request; a locked catalog can only be looked at. -/
def serve (now : Int) (isLocked : Bool) (r : Request) (c : Relational) :
    Except Failure r.Answer × Relational :=
  if c.isBroken then (.error (.catalog (.unavailable (failingName r))), c)
  else if isLocked then (serveLooking now r c, c)
  else serveWhole now r c

end Relational

end CatalogReplication.Catalog
