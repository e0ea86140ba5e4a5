import CatalogReplication.Failure
import CatalogReplication.Record.Basic
import CatalogReplication.Value.Display

/-!
# Records as documents

A record is written as a document, a mapping with one entry for each field, and read back from one.
Reading is more generous than writing: fields with a default may be left out, empty values count as
no columns or no parameters, parameters become texts, and the values of a partition follow from its
name. The values in a document are never derived again.
-/

namespace CatalogReplication

/-- The fields of a document. -/
abbrev Fields := Assoc String Value

namespace Fields

/-- Refuses fields with other names. -/
def only (names : List String) (fields : Fields) : Except Failure Unit :=
  if fields.all fun e => names.contains e.1 then .ok () else .error .arguments

/-- A text that has to be there. -/
def text (name : String) (fields : Fields) : Except Failure String :=
  match fields.lookup name with
  | some (.text s) => .ok s
  | _ => .error .arguments

/-- A text that may be missing. -/
def text? (name : String) (fields : Fields) : Except Failure (Option String) :=
  match fields.lookup name with
  | none | some .null => .ok none
  | some (.text s) => .ok (some s)
  | some _ => .error .arguments

/-- A whole number that may be missing. -/
def int? (name : String) (fields : Fields) : Except Failure (Option Int) :=
  match fields.lookup name with
  | none | some .null => .ok none
  | some (.int n) => .ok (some n)
  | some _ => .error .arguments

end Fields

/-- Reads a spec from its fields. -/
def Spec.ofFields (fields : Fields) : Except Failure Spec := do
  Fields.only ["database", "table", "partition_name"] fields
  let database ← Fields.text "database" fields
  let table ← Fields.text "table" fields
  let partition ← Fields.text? "partition_name" fields
  return { database, table, partition }

namespace Column

/-- The document of a column. -/
def document (c : Column) : Value :=
  .map [("name", .text c.name), ("type", .text c.type), ("comment", .ofText? c.comment)]

/-- Reads a column. -/
def ofValue : Value → Except Failure Column
  | .map fields => do
    Fields.only ["name", "type", "comment"] fields
    let name ← Fields.text "name" fields
    let type ← Fields.text "type" fields
    let comment ← Fields.text? "comment" fields
    return { name, type, comment }
  | _ => .error .arguments

/-- Reads a list of columns. -/
def listOf : List Value → Except Failure (List Column)
  | [] => .ok []
  | v :: rest => do
    let c ← ofValue v
    let cs ← listOf rest
    return c :: cs

/-- Reads the columns of a table; what is empty or missing is no column. -/
def ofField (v : Option Value) : Except Failure (List Column) :=
  match v with
  | none => .ok []
  | some v =>
    if v.truthy then
      match v with
      | .list items => listOf items
      | _ => .error .arguments
    else .ok []

end Column

namespace Parameters

/-- The document of parameters. -/
def document (p : Parameters) : Value := .map (p.entries.map fun e => (e.1, .text e.2))

/-- Reads parameters; what is empty or missing is no parameter, and any value becomes a text. -/
def ofField (v : Option Value) : Except Failure Parameters :=
  match v with
  | none => .ok {}
  | some v =>
    if v.truthy then
      match v with
      | .map fields => .ok (ofList (fields.map fun e => (e.1, e.2.display)))
      | _ => .error .member
    else .ok {}

end Parameters

namespace Body

/-- The names of the fields of a body. -/
def fieldNames : List String :=
  ["location", "parameters", "create_time", "last_access_time", "catalog_id"]

/-- The fields of a body. -/
def fields (b : Body) : Fields :=
  [("location", .ofText? b.location),
   ("parameters", b.parameters.document),
   ("create_time", .ofInt? b.stamp.createTime),
   ("last_access_time", .ofInt? b.stamp.lastAccessTime),
   ("catalog_id", .ofInt? b.stamp.catalogId)]

/-- Reads a body. -/
def ofFields (fields : Fields) : Except Failure Body := do
  let location ← Fields.text? "location" fields
  let parameters ← Parameters.ofField (fields.lookup "parameters")
  let createTime ← Fields.int? "create_time" fields
  let lastAccessTime ← Fields.int? "last_access_time" fields
  let catalogId ← Fields.int? "catalog_id" fields
  return { location, parameters, stamp := { createTime, lastAccessTime, catalogId } }

end Body

namespace DatabaseRecord

/-- The document of a database. -/
def document (d : DatabaseRecord) : Value :=
  .map
    [("name", .text d.name),
     ("description", .ofText? d.description),
     ("location", .ofText? d.location),
     ("owner", .ofText? d.owner),
     ("parameters", d.parameters.document)]

/-- Reads a database. -/
def ofFields (fields : Fields) : Except Failure DatabaseRecord := do
  Fields.only ["name", "description", "location", "owner", "parameters"] fields
  let name ← Fields.text "name" fields
  let description ← Fields.text? "description" fields
  let location ← Fields.text? "location" fields
  let owner ← Fields.text? "owner" fields
  let parameters ← Parameters.ofField (fields.lookup "parameters")
  return { name, description, location, owner, parameters }

end DatabaseRecord

namespace TableRecord

/-- The document of a table. -/
def document (t : TableRecord) : Value :=
  .map
    ([("database", .text t.database),
      ("name", .text t.name),
      ("columns", .list (t.columns.map Column.document)),
      ("partition_keys", .list (t.partitionKeys.map Column.document)),
      ("storage_format", .ofText? t.storageFormat),
      ("table_type", .text t.tableType),
      ("owner", .ofText? t.owner)] ++ t.body.fields)

/-- Reads a table. -/
def ofFields (fields : Fields) : Except Failure TableRecord := do
  Fields.only
    (["database", "name", "columns", "partition_keys", "storage_format", "table_type", "owner"]
      ++ Body.fieldNames) fields
  let database ← Fields.text "database" fields
  let name ← Fields.text "name" fields
  let columns ← Column.ofField (fields.lookup "columns")
  let partitionKeys ← Column.ofField (fields.lookup "partition_keys")
  let storageFormat ← Fields.text? "storage_format" fields
  let tableType ←
    if Assoc.hasKey "table_type" fields then Fields.text "table_type" fields
    else .ok "MANAGED_TABLE"
  let owner ← Fields.text? "owner" fields
  let body ← Body.ofFields fields
  return { database, name, columns, partitionKeys, storageFormat, tableType, owner, body }

end TableRecord

namespace PartitionRecord

/-- The document of a partition. -/
def document (p : PartitionRecord) : Value :=
  .map
    ([("database", .text p.database),
      ("table", .text p.table),
      ("name", .text p.name),
      ("values", .texts p.values),
      ("storage_format", .ofText? p.storageFormat)] ++ p.body.fields)

/-- Reads the values of a partition; without any they follow from its name. -/
def valuesOfField (name : String) : Option Value → Except Failure (List String)
  | none =>
    match PartitionName.values? name with
    | some values => .ok values
    | none => .error (.partitionName name)
  | some (.list items) => .ok (items.map Value.display)
  | some (.text s) => .ok (s.toList.map Char.toString)
  | some (.map entries) => .ok (Assoc.keys entries)
  | some _ => .error .arguments

/-- Reads a partition. -/
def ofFields (fields : Fields) : Except Failure PartitionRecord := do
  Fields.only
    (["database", "table", "name", "values", "storage_format"] ++ Body.fieldNames) fields
  let database ← Fields.text "database" fields
  let table ← Fields.text "table" fields
  let name ← Fields.text "name" fields
  let values ← valuesOfField name (fields.lookup "values")
  let storageFormat ← Fields.text? "storage_format" fields
  let body ← Body.ofFields fields
  return { database, table, name, values, storageFormat, body }

end PartitionRecord

/-- The document of a table or a partition. -/
def CatalogRecord.document : CatalogRecord → Value
  | .table t => t.document
  | .partition p => p.document

end CatalogReplication
