import CatalogReplication.Task.Data

/-!
# Replicating tables and partitions

A task brings one object of the destination up to date: the data first, the record last. A table is
replicated with its data unless that belongs to partitions. A partition is replicated after its
table, which comes first only if the destination lacks it or has it with another schema.
-/

namespace CatalogReplication

open TaskProgram

/-- Records that a task can write to a catalog. -/
class Replicable (ρ : Type) extends Maintained ρ where
  spec : ρ → Spec
  create : ρ → Catalog.Request
  /-- Replaces the record of a spec. -/
  alter : Spec → ρ → Catalog.Request

instance : Replicable TableRecord where
  spec := TableRecord.spec
  create := .createTable
  alter _ := .alterTable

instance : Replicable PartitionRecord where
  spec := PartitionRecord.spec
  create := .addPartition
  alter := .alterPartition

namespace Task

/-- What the tasks of a pair of clusters have in common. That there is no builder or no policy comes
out when it is asked. -/
structure Setup where
  source : Cluster
  destination : Cluster
  builder : Option Builder := some {}
  policy : Option ConflictPolicy := some .logging
  allowCopy : Bool := false
  stagingRoot : Value := .null

/-- What a setup says about data. -/
def Setup.dataOptions (o : Setup) : DataOptions :=
  { sourceName := o.source.name, allowCopy := o.allowCopy, stagingRoot := o.stagingRoot }

/-- Builds the record that the destination should hold. -/
def expect {ρ : Type} [Maintained ρ] (o : Setup) (record : ρ) (existing : Option ρ) :
    TaskProgram ρ :=
  match o.builder with
  | some b => .ofExcept (b.build o.source o.destination record existing)
  | none => .fail .member

/-- Asks the policy about a record that is there already. -/
def checkConflict (o : Setup) (spec : Spec) (existing : Parameters) : TaskProgram Unit :=
  match o.policy with
  | none => .fail .member
  | some policy =>
    match policy.check o.source o.destination spec existing with
    | .ok none => .done ()
    | .ok (some warning) => Program.tell warning
    | .error c => .fail (.conflict c)

/-- Creates the database at the destination, modelled on that of the source. -/
def ensureDatabase (o : Setup) (spec : Spec) (name : String) : TaskProgram Unit := do
  let model ← source (.getDatabase name)
  let database ← .ofExcept (Builder.buildDatabase o.source o.destination model name)
  if ← destination (.createDatabaseIfAbsent database) then
    emit spec .databaseCreated [("database", .text name)]

/-- Has a catalog change a record. -/
def write (r : Catalog.Request) : TaskProgram Unit := do
  let _ ← destination r
  return ()

/-- Writes the record that the destination should hold. -/
def publish {ρ : Type} [Replicable ρ] [DecidableEq ρ] (o : Setup) (spec : Spec)
    (existing : Option ρ) (expected : ρ) : TaskProgram Unit := do
  match Action.decide existing expected with
  | .create =>
    ensureDatabase o spec (Replicable.spec expected).database
    write (Replicable.create expected)
    emit spec .metadataCreated []
  | .alter =>
    write (Replicable.alter spec expected)
    emit spec .metadataAltered []
  | .keep => emit spec .metadataUnchanged []

/-- Brings a record and its data up to date, given both records as they are. -/
def update {ρ : Type} [Replicable ρ] [DecidableEq ρ] (o : Setup) (spec : Spec) (ownsData : Bool)
    (record : ρ) (existing : Option ρ) : TaskProgram Outcome := do
  let expected ← expect o record existing
  match existing with
  | none => pure ()
  | some e =>
    emit spec .destinationExists []
    checkConflict o (Replicable.spec record) (Maintained.body e).parameters
  let data ←
    if ownsData then
      reconcileData o.dataOptions spec (Maintained.body record).location
        (Maintained.body expected).location
    else pure {}
  match data.outcome with
  | some outcome => return outcome
  | none =>
    publish o spec existing expected
    emit spec .taskComplete [("bytes_copied", .int data.bytes)]
    .ofExcept (Outcome.make .successful data.bytes)

/-- Reports that an object is not there. -/
def sourceMissing (spec : Spec) (object : String) : TaskProgram Outcome := do
  emit spec .sourceMissing [("object", .text object)]
  return .notCompletable

/-- Replicates a table. -/
def table (o : Setup) (spec : Spec) : TaskProgram Outcome := do
  match ← source (.getTable spec) with
  | none => sourceMissing spec "table"
  | some record =>
    let existing ← destination (.getTable spec)
    update o spec (!record.isPartitioned) record existing

/-- Why the table of a partition has to come first, if it has to. -/
def cascadeReason? (record : TableRecord) (existing : Option TableRecord) : Option String :=
  match existing with
  | none => some "missing"
  | some e => if schemasMatch record e then none else some "schema_mismatch"

/-- Brings a partition up to date whose table is there. -/
def updatePartition (o : Setup) (spec : Spec) (record : PartitionRecord) :
    TaskProgram Outcome := do
  let existing ← destination (.getPartition spec)
  update o spec true record existing

/-- Replicates a partition, after its table where necessary. -/
def partition (o : Setup) (spec : Spec) : TaskProgram Outcome := do
  match ← source (.getPartition spec) with
  | none => sourceMissing spec "partition"
  | some record =>
    let sourceTable ← source (.getTable spec.tableSpec)
    let existingTable ← destination (.getTable spec.tableSpec)
    match sourceTable with
    | none => sourceMissing spec "table"
    | some tableRecord =>
      match cascadeReason? tableRecord existingTable with
      | none => updatePartition o spec record
      | some reason =>
        emit spec .tableCascade [("reason", .text reason)]
        let outcome ← table o spec.tableSpec
        if outcome.isSuccessful then updatePartition o spec record
        else
          emit spec .tableCascadeFailed [("status", .text outcome.status.name)]
          return .failed

end Task

/-- A task for one object. -/
inductive ReplicationTask where
  | table (spec : Spec) (locationHint : Value)
  | partition (spec : Spec)
deriving Repr

namespace ReplicationTask

/-- A task for a table. -/
def forTable (spec : Spec) (locationHint : Value) : Except Failure ReplicationTask :=
  if spec.isPartition then .error (.spec (.notTable spec)) else .ok (table spec locationHint)

/-- A task for a partition. -/
def forPartition (spec : Spec) : Except Failure ReplicationTask :=
  if spec.isPartition then .ok (partition spec) else .error (.spec (.notPartition spec))

/-- The task for a spec. -/
def forSpec (spec : Spec) : ReplicationTask :=
  if spec.isPartition then partition spec else table spec .null

/-- The spec of a task. -/
def spec : ReplicationTask → Spec
  | table spec _ => spec
  | partition spec => spec

/-- The location that the caller of a task expected its table to have. -/
def locationHint : ReplicationTask → Value
  | table _ hint => hint
  | partition _ => .null

/-- The locks that a task needs. -/
def requiredLocks (t : ReplicationTask) : Lock.LockSet := t.spec.requiredLocks

/-- What a task does. -/
def program (o : Task.Setup) : ReplicationTask → TaskProgram Outcome
  | table spec _ => Task.table o spec
  | partition spec => Task.partition o spec

/-- The name of the kind of a task. -/
def kindName : ReplicationTask → String
  | table _ _ => "TableReplicationTask"
  | partition _ => "PartitionReplicationTask"

/-- How a task is shown. -/
def text (source destination : Cluster) (t : ReplicationTask) : String :=
  s!"<{t.kindName} '{t.spec.text}' {source.name.display} -> {destination.name.display}>"

end ReplicationTask

end CatalogReplication
