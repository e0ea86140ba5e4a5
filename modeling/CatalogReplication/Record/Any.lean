import CatalogReplication.Record.Comparable
import CatalogReplication.Record.Document

/-!
# Records of any kind

A record whose kind is only known when it is read. What concerns tables and partitions alone refuses
databases.
-/

namespace CatalogReplication

/-- A record of any kind. -/
inductive AnyRecord where
  | database (d : DatabaseRecord)
  | object (r : CatalogRecord)
deriving DecidableEq, Repr

namespace AnyRecord

/-- Reads a record of a kind. -/
def ofFields (kind : String) (fields : Fields) : Except Failure AnyRecord :=
  match kind with
  | "database" => (DatabaseRecord.ofFields fields).map .database
  | "table" => (TableRecord.ofFields fields).map fun t => .object (.table t)
  | "partition" => (PartitionRecord.ofFields fields).map fun p => .object (.partition p)
  | _ => .error .keyMissing

/-- The document of a record. -/
def document : AnyRecord → Value
  | database d => d.document
  | object r => r.document

/-- The parameters of a record. -/
def parameters : AnyRecord → Parameters
  | database d => d.parameters
  | object r => r.body.parameters

/-- The spec of a table or a partition. -/
def spec : AnyRecord → Except Failure Spec
  | database _ => .error .member
  | object r => .ok r.spec

/-- The record of a table or a partition. -/
def maintained : AnyRecord → Except Failure CatalogRecord
  | database _ => .error .arguments
  | object r => .ok r

/-- The record of a table. -/
def table : AnyRecord → Except Failure TableRecord
  | object (.table t) => .ok t
  | _ => .error .member

/-- What has to happen to a record of the destination. -/
def action (existing : Option AnyRecord) (expected : AnyRecord) : Except Failure Action :=
  match existing with
  | none => .ok .create
  | some e => do
    let e ← e.maintained
    let r ← expected.maintained
    return Action.decide (some e) r

/-- Whether the document of a record reads back as the record. -/
def roundTrips (r : AnyRecord) : Bool :=
  let kind :=
    match r with
    | database _ => "database"
    | object (.table _) => "table"
    | object (.partition _) => "partition"
  match r.document with
  | .map fields =>
    match ofFields kind fields with
    | .ok r' => decide (r' = r)
    | .error _ => false
  | _ => false

end AnyRecord

end CatalogReplication
