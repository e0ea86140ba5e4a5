import CatalogReplication.Proofs.Record.Parameters
import CatalogReplication.Proofs.Value.Alike
import CatalogReplication.Record.Document

/-!
# Records survive being written

Reading what is like the document of a record gives the record back, whatever the order of the
entries (`DatabaseRecord.ofFields_of_alike`, `TableRecord.ofFields_of_alike`,
`PartitionRecord.ofFields_of_alike`). That goes for the document itself, too
(`DatabaseRecord.ofFields_document`, `TableRecord.ofFields_document`,
`PartitionRecord.ofFields_document`). The documents of records are exact.
-/

namespace CatalogReplication

/-- What is read on the way to a result was read. -/
theorem exists_of_bind {ε α β : Type} {x : Except ε α} {f : α → Except ε β} {b : β}
    (h : x >>= f = .ok b) : ∃ a, x = .ok a ∧ f a = .ok b := by
  cases x with
  | error e => cases h
  | ok a => exact ⟨a, rfl, h⟩

open Value (isRigid_text isRigid_ofText? isRigid_ofInt? isRigid_texts)

namespace Fields

variable {name : String} {fields fields' : Fields}

theorem text_of_lookup {s : String} (h : fields.lookup name = some (.text s)) :
    text name fields = .ok s := by
  unfold text
  rw [h]

theorem text?_of_lookup {s : Option String} (h : fields.lookup name = some (.ofText? s)) :
    text? name fields = .ok s := by
  unfold text?
  rw [h]
  cases s <;> rfl

theorem int?_of_lookup {n : Option Int} (h : fields.lookup name = some (.ofInt? n)) :
    int? name fields = .ok n := by
  unfold int?
  rw [h]
  cases n <;> rfl

variable (h : (Value.map fields).Alike (.map fields'))
include h

theorem only_of_alike {names : List String} (hnames : only names fields' = .ok ()) :
    only names fields = .ok () := by
  have hall : (fields.all fun e => names.contains e.1) =
      fields'.all fun e => names.contains e.1 := by
    simpa [Assoc.keys, List.all_map, Function.comp_def] using
      h.perm_keys.all_eq (f := names.contains)
  rwa [only, hall]

theorem text_of_alike {s : String} (hs : fields'.lookup name = some (.text s)) :
    text name fields = .ok s :=
  text_of_lookup (h.lookup_eq hs (isRigid_text s))

theorem text?_of_alike {s : Option String} (hs : fields'.lookup name = some (.ofText? s)) :
    text? name fields = .ok s :=
  text?_of_lookup (h.lookup_eq hs (isRigid_ofText? s))

theorem int?_of_alike {n : Option Int} (hn : fields'.lookup name = some (.ofInt? n)) :
    int? name fields = .ok n :=
  int?_of_lookup (h.lookup_eq hn (isRigid_ofInt? n))

end Fields

/-! ### Columns -/

namespace Column

theorem ofValue_of_alike {v : Value} {c : Column} (h : v.Alike c.document) : ofValue v = .ok c := by
  obtain ⟨fields, rfl⟩ := h.exists_map
  rw [ofValue, Fields.only_of_alike h rfl, Fields.text_of_alike h (s := c.name) rfl,
    Fields.text_of_alike h (s := c.type) rfl, Fields.text?_of_alike h (s := c.comment) rfl]
  rfl

theorem listOf_of_alike {items : List Value} {cs : List Column}
    (h : List.Forall₂ Value.Alike items (cs.map document)) : listOf items = .ok cs := by
  induction cs generalizing items with
  | nil =>
    rw [List.forall₂_nil_right_iff.1 h]
    rfl
  | cons c cs ih =>
    obtain - | ⟨hc, hcs⟩ := h
    rw [listOf, ofValue_of_alike hc, ih hcs]
    rfl

theorem ofField_list (items : List Value) : ofField (some (.list items)) = listOf items := by
  cases items <;> rfl

theorem ofField_of_alike {fields fields' : Fields} {name : String} {l : List Column}
    (h : (Value.map fields).Alike (.map fields'))
    (hl : fields'.lookup name = some (.list (l.map document))) :
    ofField (fields.lookup name) = .ok l := by
  obtain ⟨v, hv, halike⟩ := h.exists_lookup hl
  obtain ⟨items, rfl, hitems⟩ := halike.exists_list
  rw [hv, ofField_list, listOf_of_alike hitems]

theorem isExact_document (c : Column) : c.document.IsExact := by
  refine .map (show ["name", "type", "comment"].Nodup by decide) ?_
  simp [Value.isExact_ofText?, Value.IsExact.text]

theorem isExact_documents (cs : List Column) : (Value.list (cs.map document)).IsExact := by
  refine .list fun v hv => ?_
  obtain ⟨c, -, rfl⟩ := List.mem_map.1 hv
  exact isExact_document c

end Column

/-! ### Parameters -/

namespace Parameters

/-- Setting entries one after the other, where no key comes twice. -/
theorem get?_foldl_insert {l : List (String × String)} (hl : (Assoc.keys l).Nodup)
    (k : String) (p : Parameters) :
    (l.foldl (fun p e => p.insert e.1 e.2) p).get? k = (l.lookup k).or (p.get? k) := by
  induction l generalizing p with
  | nil => rfl
  | cons e rest ih =>
    obtain ⟨k', v⟩ := e
    obtain ⟨hnew, hrest⟩ := List.nodup_cons.1 hl
    rw [List.foldl_cons, ih hrest, get?_insert]
    by_cases hk : k = k'
    · subst hk
      simp [Assoc.lookup_eq_none_iff.2 hnew]
    · have hb : (k == k') = false := beq_eq_false_iff_ne.2 hk
      simp [List.lookup_cons, hb, hk]

theorem get?_ofList {l : List (String × String)} (hl : (Assoc.keys l).Nodup) (k : String) :
    (ofList l).get? k = l.lookup k := by
  rw [ofList, get?_foldl_insert hl]
  exact Option.or_none

theorem ofField_map (fields : Fields) :
    ofField (some (.map fields)) = .ok (ofList (fields.map fun e => (e.1, e.2.display))) := by
  cases fields <;> rfl

theorem ofField_of_alike {fields fields' : Fields} {name : String} {p : Parameters}
    (h : (Value.map fields).Alike (.map fields')) (hp : fields'.lookup name = some p.document) :
    ofField (fields.lookup name) = .ok p := by
  obtain ⟨v, hv, halike⟩ := h.exists_lookup hp
  obtain ⟨entries, rfl⟩ := halike.exists_map
  rw [hv, ofField_map]
  -- The entries may come in any order, so the parameters are told by their look-ups.
  refine congrArg Except.ok (ext_get? fun k => ?_)
  have hkeys : (Assoc.keys entries).Perm (Assoc.keys p.entries) :=
    Assoc.keys_map Value.text p.entries ▸ halike.perm_keys
  have hnodup : (Assoc.keys (entries.map fun e => (e.1, e.2.display))).Nodup := by
    rw [Assoc.keys_map, hkeys.nodup_iff]
    exact p.nodup_keys
  rw [get?_ofList hnodup, Assoc.lookup_map]
  cases hk : p.get? k with
  | none =>
    have hnone : entries.lookup k = none := by
      rw [Assoc.lookup_eq_none_iff, hkeys.mem_iff]
      exact Assoc.lookup_eq_none_iff.1 hk
    rw [hnone]
    rfl
  | some s =>
    have hs : (p.entries.map fun e => (e.1, Value.text e.2)).lookup k = some (.text s) := by
      rw [Assoc.lookup_map]
      exact congrArg (Option.map Value.text) hk
    rw [halike.lookup_eq hs (isRigid_text s)]
    rfl

theorem isExact_document (p : Parameters) : p.document.IsExact := by
  refine .map (Assoc.keys_map Value.text p.entries ▸ p.nodup_keys) fun e he => ?_
  obtain ⟨e, -, rfl⟩ := List.mem_map.1 he
  exact .text e.2

end Parameters

/-! ### Bodies -/

namespace Body

/-- The fields of a body in a document that may have others in front of them. -/
theorem ofFields_of_alike {fields before : Fields} {b : Body}
    (h : (Value.map fields).Alike (.map (before ++ b.fields)))
    (hbefore : ∀ name ∈ fieldNames, before.lookup name = none) :
    Body.ofFields fields = .ok b := by
  have hlookup : ∀ name ∈ fieldNames,
      (before ++ b.fields).lookup name = b.fields.lookup name := fun name hname => by
    rw [List.lookup_append, hbefore name hname, Option.none_or]
  unfold Body.ofFields
  rw [Fields.text?_of_alike h (hlookup "location" (by decide)),
    Parameters.ofField_of_alike h (hlookup "parameters" (by decide)),
    Fields.int?_of_alike h (hlookup "create_time" (by decide)),
    Fields.int?_of_alike h (hlookup "last_access_time" (by decide)),
    Fields.int?_of_alike h (hlookup "catalog_id" (by decide))]
  rfl

theorem isExact_map {before : Fields} (hkeys : (Assoc.keys before ++ fieldNames).Nodup)
    (hbefore : ∀ e ∈ before, e.2.IsExact) (b : Body) :
    (Value.map (before ++ b.fields)).IsExact := by
  refine .map (by simpa [Assoc.keys, fields, fieldNames] using hkeys) fun e he => ?_
  rcases List.mem_append.1 he with he | he
  · exact hbefore e he
  · simp only [fields, List.mem_cons, List.not_mem_nil, or_false] at he
    rcases he with rfl | rfl | rfl | rfl | rfl
    · exact Value.isExact_ofText? _
    · exact b.parameters.isExact_document
    all_goals exact Value.isExact_ofInt? _

end Body

/-! ### Records -/

namespace DatabaseRecord

/-- **A database is read back** from what is like its document. -/
theorem ofFields_of_alike {fields : Fields} {d : DatabaseRecord}
    (h : (Value.map fields).Alike d.document) : DatabaseRecord.ofFields fields = .ok d := by
  unfold DatabaseRecord.ofFields
  rw [Fields.only_of_alike h rfl, Fields.text_of_alike h (s := d.name) rfl,
    Fields.text?_of_alike h (s := d.description) rfl, Fields.text?_of_alike h (s := d.location) rfl,
    Fields.text?_of_alike h (s := d.owner) rfl,
    Parameters.ofField_of_alike h (p := d.parameters) rfl]
  rfl

theorem ofFields_document (d : DatabaseRecord) :
    ∃ fields, d.document = .map fields ∧ DatabaseRecord.ofFields fields = .ok d :=
  ⟨_, rfl, ofFields_of_alike (.refl _)⟩

theorem isExact_document (d : DatabaseRecord) : d.document.IsExact := by
  refine .map (show ["name", "description", "location", "owner", "parameters"].Nodup by decide) ?_
  simp [Value.isExact_ofText?, Value.IsExact.text, Parameters.isExact_document]

end DatabaseRecord

namespace TableRecord

/-- **A table is read back** from what is like its document. -/
theorem ofFields_of_alike {fields : Fields} {t : TableRecord}
    (h : (Value.map fields).Alike t.document) : TableRecord.ofFields fields = .ok t := by
  have htype : fields.lookup "table_type" = some (.text t.tableType) :=
    h.lookup_eq rfl (isRigid_text _)
  have hkey : Assoc.hasKey "table_type" fields = true := by
    rw [Assoc.hasKey, htype]
    rfl
  unfold TableRecord.ofFields
  rw [Fields.only_of_alike h rfl, Fields.text_of_alike h (s := t.database) rfl,
    Fields.text_of_alike h (s := t.name) rfl, Column.ofField_of_alike h (l := t.columns) rfl,
    Column.ofField_of_alike h (l := t.partitionKeys) rfl,
    Fields.text?_of_alike h (s := t.storageFormat) rfl,
    hkey, Fields.text_of_lookup htype, Fields.text?_of_alike h (s := t.owner) rfl,
    Body.ofFields_of_alike h (by simp [Body.fieldNames])]
  rfl

theorem ofFields_document (t : TableRecord) :
    ∃ fields, t.document = .map fields ∧ TableRecord.ofFields fields = .ok t :=
  ⟨_, rfl, ofFields_of_alike (.refl _)⟩

theorem isExact_document (t : TableRecord) : t.document.IsExact := by
  refine Body.isExact_map ?_ ?_ t.body
  · show (["database", "name", "columns", "partition_keys", "storage_format", "table_type",
      "owner"] ++ Body.fieldNames).Nodup
    decide
  · simp [Value.isExact_ofText?, Value.IsExact.text, Column.isExact_documents]

end TableRecord

namespace PartitionRecord

theorem valuesOfField_texts (name : String) (values : List String) :
    PartitionRecord.valuesOfField name (some (.texts values)) = .ok values := by
  show Except.ok ((values.map Value.text).map Value.display) = _
  rw [List.map_map]
  exact congrArg Except.ok (List.map_id values)

/-- **A partition is read back** from what is like its document. -/
theorem ofFields_of_alike {fields : Fields} {p : PartitionRecord}
    (h : (Value.map fields).Alike p.document) : PartitionRecord.ofFields fields = .ok p := by
  unfold PartitionRecord.ofFields
  rw [Fields.only_of_alike h rfl, Fields.text_of_alike h (s := p.database) rfl,
    Fields.text_of_alike h (s := p.table) rfl, Fields.text_of_alike h (s := p.name) rfl,
    h.lookup_eq (w := .texts p.values) rfl (isRigid_texts _),
    Fields.text?_of_alike h (s := p.storageFormat) rfl,
    Body.ofFields_of_alike h (by simp [Body.fieldNames])]
  show (PartitionRecord.valuesOfField p.name (some (.texts p.values))).bind
    (fun values => .ok { p with values }) = _
  rw [valuesOfField_texts]
  rfl

/-- **Values are not derived again**: those in the fields are those of the partition, whatever its
name. -/
theorem values_of_ofFields {fields : Fields} {p : PartitionRecord} {values : List String}
    (h : PartitionRecord.ofFields fields = .ok p)
    (hvalues : fields.lookup "values" = some (.texts values)) : p.values = values := by
  unfold PartitionRecord.ofFields at h
  rw [hvalues] at h
  obtain ⟨-, -, h⟩ := exists_of_bind h
  obtain ⟨database, -, h⟩ := exists_of_bind h
  obtain ⟨table, -, h⟩ := exists_of_bind h
  obtain ⟨name, -, h⟩ := exists_of_bind h
  rw [valuesOfField_texts] at h
  obtain ⟨values', hsame, h⟩ := exists_of_bind h
  obtain ⟨storageFormat, -, h⟩ := exists_of_bind h
  obtain ⟨body, -, h⟩ := exists_of_bind h
  cases hsame
  cases h
  rfl

theorem ofFields_document (p : PartitionRecord) :
    ∃ fields, p.document = .map fields ∧ PartitionRecord.ofFields fields = .ok p :=
  ⟨_, rfl, ofFields_of_alike (.refl _)⟩

theorem isExact_document (p : PartitionRecord) : p.document.IsExact := by
  refine Body.isExact_map ?_ ?_ p.body
  · show (["database", "table", "name", "values", "storage_format"] ++ Body.fieldNames).Nodup
    decide
  · simp [Value.isExact_ofText?, Value.IsExact.text, Value.isExact_texts]

end PartitionRecord

end CatalogReplication
