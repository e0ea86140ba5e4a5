import CatalogReplication.Proofs.Catalog.Relational
import CatalogReplication.Proofs.Value.Json

/-!
# Records in storage

What is stored of a record is the text of its document. In a codec exact values survive being
written and read, as they do in JSON (`Codec.json`), and so records do: what is stored of a record
is read as that record, records are told apart by what is stored of them, and the values of a
partition are the stored ones (`Codec.keeps_records`). The order in which a document has its entries
is left open, since nothing that is read depends on it.
-/

namespace CatalogReplication.Catalog

/-- A way to write values down as texts in which exact values survive. -/
structure Codec where
  encode : Value → String
  decode : String → Option Value
  decode_encode : ∀ {v : Value}, v.IsExact → decode (encode v) = some v

namespace Codec

/-- JSON as a codec. -/
def json : Codec where
  encode := Value.toJson
  decode := Value.ofJson?
  decode_encode := Value.ofJson?_toJson

/-- The record that a stored text is read as. -/
def read (codec : Codec) (ρ : Type) [Stored ρ] (text : String) : Option ρ :=
  (codec.decode text).bind fun v => (Relational.read ρ v).toOption

/-- Records of a kind survive being stored, whatever the order of the entries in documents. -/
structure Keeps (codec : Codec) (ρ : Type) [Stored ρ] : Prop where
  reads_back : ∀ (x : ρ) {v : Value}, v.Alike (Stored.document x) →
    codec.read ρ (codec.encode v) = some x
  tells_apart : ∀ {x y : ρ} {v w : Value}, v.Alike (Stored.document x) →
    w.Alike (Stored.document y) → x ≠ y → codec.encode v ≠ codec.encode w

variable {codec : Codec} {ρ : Type} [Stored ρ]

theorem read_encode {v : Value} (h : v.IsExact) :
    codec.read ρ (codec.encode v) = (Relational.read ρ v).toOption := by
  rw [read, codec.decode_encode h, Option.bind_some]

/-- Records with exact documents that are read in any order of their entries are kept. -/
theorem keeps_of_alike (hexact : ∀ x : ρ, (Stored.document x).IsExact)
    (hread : ∀ {x : ρ} {fields : Fields}, (Value.map fields).Alike (Stored.document x) →
      Stored.ofFields fields = .ok x) : codec.Keeps ρ := by
  have hback : ∀ (x : ρ) {v : Value}, v.Alike (Stored.document x) →
      codec.read ρ (codec.encode v) = some x := by
    intro x v h
    obtain ⟨fields, hdocument, -⟩ := Stored.ofFields_document x
    obtain ⟨fields', rfl⟩ := Value.Alike.exists_map (hdocument ▸ h)
    rw [read_encode (h.isExact (hexact x))]
    show (Stored.ofFields fields').toOption = some x
    rw [hread h]
    rfl
  refine ⟨hback, fun {x y v w} hx hy hne heq => hne ?_⟩
  have hsame : some x = some y := by
    rw [← hback x hx, ← hback y hy, heq]
  exact Option.some.inj hsame

theorem keeps_database : codec.Keeps DatabaseRecord :=
  keeps_of_alike DatabaseRecord.isExact_document DatabaseRecord.ofFields_of_alike

theorem keeps_table : codec.Keeps TableRecord :=
  keeps_of_alike TableRecord.isExact_document TableRecord.ofFields_of_alike

theorem keeps_partition : codec.Keeps PartitionRecord :=
  keeps_of_alike PartitionRecord.isExact_document PartitionRecord.ofFields_of_alike

/-- The values of a partition that is read are those that were stored. -/
theorem values_of_read {text : String} {v : Value} {values : List String} {p : PartitionRecord}
    (hv : codec.decode text = some v) (hvalues : v.field? "values" = some (.texts values))
    (hp : codec.read PartitionRecord text = some p) : p.values = values := by
  rw [read, hv, Option.bind_some] at hp
  cases v with
  | map fields =>
    change (PartitionRecord.ofFields fields).toOption = some p at hp
    cases hread : PartitionRecord.ofFields fields with
    | error e =>
      rw [hread] at hp
      cases hp
    | ok q =>
      rw [hread] at hp
      cases hp
      exact PartitionRecord.values_of_ofFields hread hvalues
  | _ => cases hvalues

/-- **Records survive storage**: what is stored of a database, a table or a partition is read as
that record, different records are stored as different texts, and the values of a partition are read
from where they are stored and not from its name. -/
theorem keeps_records (codec : Codec) :
    codec.Keeps DatabaseRecord ∧ codec.Keeps TableRecord ∧ codec.Keeps PartitionRecord ∧
      ∀ {text : String} {v : Value} {values : List String} {p : PartitionRecord},
        codec.decode text = some v → v.field? "values" = some (.texts values) →
          codec.read PartitionRecord text = some p → p.values = values :=
  ⟨keeps_database, keeps_table, keeps_partition, values_of_read⟩

/-- A partition without the values of its name, from JSON with the location before the format. -/
theorem keeps_records_json :
    json.read PartitionRecord
        ("\x7b\"database\": \"d\", \"table\": \"t\", \"name\": \"ds=1/hr=2\", \"values\": [], " ++
          "\"location\": \"/x\", \"storage_format\": null, " ++
          "\"parameters\": \x7b\"n\": \"1\"\x7d, \"create_time\": null, " ++
          "\"last_access_time\": -3, \"catalog_id\": 4\x7d") =
      some
        { database := "d", table := "t", name := "ds=1/hr=2", values := []
          body :=
            { location := some "/x", parameters := .ofList [("n", "1")]
              stamp := { lastAccessTime := some (-3), catalogId := some 4 } } } := by
  have hperm : @List.Perm (String × Value)
      [("database", .text "d"), ("table", .text "t"), ("name", .text "ds=1/hr=2"),
        ("values", .texts []), ("location", .text "/x"), ("storage_format", .null),
        ("parameters", .map [("n", .text "1")]), ("create_time", .null),
        ("last_access_time", .int (-3)), ("catalog_id", .int 4)]
      [("database", .text "d"), ("table", .text "t"), ("name", .text "ds=1/hr=2"),
        ("values", .texts []), ("storage_format", .null), ("location", .text "/x"),
        ("parameters", .map [("n", .text "1")]), ("create_time", .null),
        ("last_access_time", .int (-3)), ("catalog_id", .int 4)] :=
    .append_left [_, _, _, _] (.swap _ _ _)
  have hkeys : ["database", "table", "name", "values", "storage_format", "location", "parameters",
      "create_time", "last_access_time", "catalog_id"].Nodup := by decide
  refine Eq.trans (congrArg (json.read PartitionRecord) ?_)
    ((keeps_records json).2.2.1.reads_back _ (.of_perm hkeys hperm))
  decide +kernel

end Codec

end CatalogReplication.Catalog
