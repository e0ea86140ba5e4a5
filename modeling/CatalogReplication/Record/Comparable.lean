import CatalogReplication.Record.Basic
import CatalogReplication.Text.Blank
import CatalogReplication.Text.CaseFold

/-!
# Comparing records

A catalog changes some fields of the records that it stores, so records are compared by their
comparable part: the record without its stamp and without the parameters that catalogs write. Two
tables have the same schema if their columns agree up to case and surrounding blanks.
`Action.decide` says what has to happen to a destination record.
-/

namespace CatalogReplication

/-- The parameter in which a catalog notes the time of the last change. -/
def lastChangeKey : String := "transient_lastDdlTime"

/-- The parameters that catalogs write by themselves. -/
def maintainedKeys : List String := [lastChangeKey, "last_modified_time", "last_modified_by"]

/-- The parameters that clients write. -/
def Parameters.comparable (p : Parameters) : Parameters :=
  p.filter fun k _ => !maintainedKeys.contains k

/-- A body without what catalogs write. -/
def Body.comparable (b : Body) : Body :=
  { b with parameters := b.parameters.comparable, stamp := {} }

/-- A record without what catalogs write. -/
def comparable {ρ : Type} [Maintained ρ] (r : ρ) : ρ :=
  Maintained.withBody (Maintained.body r).comparable r

/-- What has to happen to the record of the destination. -/
inductive Action where
  | create
  | alter
  | keep
deriving DecidableEq, Repr

/-- A record that isn't there is created, one whose comparable part differs is altered. -/
def Action.decide {ρ : Type} [Maintained ρ] [DecidableEq ρ] (existing : Option ρ) (expected : ρ) :
    Action :=
  match existing with
  | none => .create
  | some r => if comparable r = comparable expected then .keep else .alter

/-- A column as far as schemas are compared. -/
def Column.schemaKey (c : Column) : List Char × List Char :=
  (Text.foldCase (Text.trim c.name.toList), Text.foldCase (Text.trim c.type.toList))

/-- The columns of a table as far as schemas are compared. -/
def TableRecord.schema (t : TableRecord) :
    List (List Char × List Char) × List (List Char × List Char) :=
  (t.columns.map Column.schemaKey, t.partitionKeys.map Column.schemaKey)

/-- Whether two tables have the same columns and the same partition keys, in the same order. -/
def schemasMatch (a b : TableRecord) : Bool := decide (a.schema = b.schema)

end CatalogReplication
