import CatalogReplication.PartitionName
import CatalogReplication.Record.Parameters
import CatalogReplication.Spec

/-!
# Records

What a catalog stores: databases, tables and partitions. Tables and partitions have a body, which
holds where the data is, free parameters, and the stamp that the catalog itself keeps up. The class
`Maintained` is what they have in common, so that what concerns the body alone is said once.
-/

namespace CatalogReplication

/-- A column of a table. -/
structure Column where
  name : String
  type : String
  comment : Option String := none
deriving DecidableEq, Repr, Inhabited

/-- The fields of a record that its catalog keeps up. -/
structure Stamp where
  createTime : Option Int := none
  lastAccessTime : Option Int := none
  catalogId : Option Int := none
deriving DecidableEq, Repr, Inhabited

/-- What tables and partitions have in common; a view has no location. -/
structure Body where
  location : Option String := none
  parameters : Parameters := {}
  stamp : Stamp := {}
deriving DecidableEq, Repr, Inhabited

/-- A database. -/
structure DatabaseRecord where
  name : String
  description : Option String := none
  location : Option String := none
  owner : Option String := none
  parameters : Parameters := {}
deriving DecidableEq, Repr, Inhabited

/-- A table. -/
structure TableRecord where
  database : String
  name : String
  columns : List Column := []
  partitionKeys : List Column := []
  storageFormat : Option String := none
  tableType : String := "MANAGED_TABLE"
  owner : Option String := none
  body : Body := {}
deriving DecidableEq, Repr, Inhabited

/-- A partition of a table. -/
structure PartitionRecord where
  database : String
  table : String
  name : String
  values : List String
  storageFormat : Option String := none
  body : Body := {}
deriving DecidableEq, Repr, Inhabited

/-- A record that can be replicated. -/
inductive CatalogRecord where
  | table (t : TableRecord)
  | partition (p : PartitionRecord)
deriving DecidableEq, Repr

namespace TableRecord

/-- The spec of a table. -/
def spec (t : TableRecord) : Spec := { database := t.database, table := t.name }

/-- Whether the data of a table belongs to partitions. -/
def isPartitioned (t : TableRecord) : Bool := !t.partitionKeys.isEmpty

end TableRecord

/-- The spec of a partition. -/
def PartitionRecord.spec (p : PartitionRecord) : Spec :=
  { database := p.database, table := p.table, partition := some p.name }

/-- The spec of a record. -/
def CatalogRecord.spec : CatalogRecord → Spec
  | .table t => t.spec
  | .partition p => p.spec

/-- Records with a body that can be replaced without touching anything else. -/
class Maintained (ρ : Type) where
  body : ρ → Body
  withBody : Body → ρ → ρ
  body_withBody : ∀ (b : Body) (r : ρ), body (withBody b r) = b
  withBody_body : ∀ r : ρ, withBody (body r) r = r
  withBody_withBody : ∀ (b b' : Body) (r : ρ), withBody b (withBody b' r) = withBody b r

instance : Maintained TableRecord where
  body t := t.body
  withBody b t := { t with body := b }
  body_withBody _ _ := rfl
  withBody_body _ := rfl
  withBody_withBody _ _ _ := rfl

instance : Maintained PartitionRecord where
  body p := p.body
  withBody b p := { p with body := b }
  body_withBody _ _ := rfl
  withBody_body _ := rfl
  withBody_withBody _ _ _ := rfl

/-- The body of a table or a partition. -/
def CatalogRecord.body : CatalogRecord → Body
  | .table t => t.body
  | .partition p => p.body

/-- Replaces the body of a table or a partition. -/
def CatalogRecord.withBody (b : Body) : CatalogRecord → CatalogRecord
  | .table t => .table { t with body := b }
  | .partition p => .partition { p with body := b }

instance : Maintained CatalogRecord where
  body := CatalogRecord.body
  withBody := CatalogRecord.withBody
  body_withBody _ r := by cases r <;> rfl
  withBody_body r := by cases r <;> rfl
  withBody_withBody _ _ r := by cases r <;> rfl

end CatalogReplication
