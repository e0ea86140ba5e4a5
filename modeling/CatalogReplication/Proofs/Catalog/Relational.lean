import CatalogReplication.Catalog.Relational
import CatalogReplication.Proofs.Catalog.Service
import CatalogReplication.Proofs.Record.Document
import Mathlib.Data.List.Nodup

/-!
# Relational catalogs as services

Rows hold records as documents and are numbered without repetition (`Relational.Tidy`). So look-ups
find records in them as in a map: a row that is added or replaced changes what is found under its
own spec and nothing else (`Relational.Tidy.append`, `Relational.Tidy.replace`). A relational
catalog whose rows are tidy is a service (`relational`).
-/

namespace CatalogReplication.Catalog

/-- Records that are held as documents. -/
class Stored (ρ : Type) where
  document : ρ → Value
  ofFields : Fields → Except Failure ρ
  ofFields_document : ∀ x : ρ, ∃ fields, document x = .map fields ∧ ofFields fields = .ok x

instance : Stored DatabaseRecord where
  document := DatabaseRecord.document
  ofFields := DatabaseRecord.ofFields
  ofFields_document := DatabaseRecord.ofFields_document

instance : Stored TableRecord where
  document := TableRecord.document
  ofFields := TableRecord.ofFields
  ofFields_document := TableRecord.ofFields_document

instance : Stored PartitionRecord where
  document := PartitionRecord.document
  ofFields := PartitionRecord.ofFields
  ofFields_document := PartitionRecord.ofFields_document

namespace Relational

section

variable (ρ : Type) [Stored ρ]

/-- Reads a document. -/
def read (document : Value) : Except Failure ρ := do
  Stored.ofFields (← fieldsOf document)

/-- The record that rows hold under a spec. -/
def record? (rows : List Row) (k : Spec) : Option ρ :=
  (row? k rows).bind fun r => (read ρ r.document).toOption

/-- Rows as requests leave them: with documents of records, and with numbers that don't repeat and
stay below the next one. -/
structure Tidy (rows : List Row) : Prop where
  documents : ∀ r ∈ rows, ∃ x : ρ, r.document = Stored.document x
  nodup : (rows.map Row.id).Nodup
  bounded : ∀ r ∈ rows, r.id ≤ rows.length

end

section

variable {ρ : Type} [Stored ρ] {rows : List Row} {k : Spec} {r : Row} {x : ρ}

theorem read_document (x : ρ) : read ρ (Stored.document x) = .ok x := by
  obtain ⟨fields, hdocument, hread⟩ := Stored.ofFields_document x
  rw [read, hdocument]
  exact hread

/-- Reading a document on the way to something else. -/
theorem bind_document {α : Type} (x : ρ) (f : ρ → Except Failure α) :
    (do let fields ← fieldsOf (Stored.document x); let y ← Stored.ofFields fields; f y) = f x := by
  obtain ⟨fields, hdocument, hread⟩ := Stored.ofFields_document x
  rw [hdocument]
  show (Stored.ofFields fields).bind f = f x
  rw [hread]
  rfl

theorem tidy_nil : Tidy ρ [] := ⟨nofun, List.nodup_nil, nofun⟩

/-! ### Rows -/

theorem mem_of_row? (h : row? k rows = some r) : r ∈ rows := List.mem_of_find?_eq_some h

theorem spec_of_row? (h : row? k rows = some r) : r.spec = k := by
  simpa using List.find?_some h

theorem row?_append (k : Spec) (rows : List Row) (r : Row) :
    row? k (rows ++ [r]) = (row? k rows).or (if r.spec = k then some r else none) := by
  unfold row?
  rw [List.find?_append]
  by_cases h : r.spec = k
  · simp [h]
  · have hb : (r.spec == k) = false := beq_eq_false_iff_ne.2 h
    simp [hb, h]

theorem row?_replaceDocument (k : Spec) (id : Nat) (document : Value) (rows : List Row) :
    row? k (replaceDocument id document rows) =
      (row? k rows).map fun r => if r.id == id then { r with document } else r := by
  unfold row? replaceDocument
  rw [List.find?_map]
  congr 2
  funext r
  simp only [Function.comp]
  split <;> rfl

/-- What tidy rows hold under a spec is in a row of that spec. -/
theorem Tidy.record?_of_row? (h : Tidy ρ rows) (hr : row? k rows = some r) :
    ∃ x : ρ, r.document = Stored.document x ∧ record? ρ rows k = some x := by
  obtain ⟨x, hx⟩ := h.documents r (mem_of_row? hr)
  refine ⟨x, hx, ?_⟩
  rw [record?, hr, Option.bind_some, hx, read_document]
  rfl

theorem Tidy.record?_eq_none_iff (h : Tidy ρ rows) :
    record? ρ rows k = none ↔ row? k rows = none := by
  constructor
  · intro hnone
    cases hr : row? k rows with
    | none => rfl
    | some r =>
      obtain ⟨x, -, hx⟩ := h.record?_of_row? hr
      rw [hnone] at hx
      cases hx
  · intro hnone
    rw [record?, hnone]
    rfl

/-- Rows are told apart by their numbers. -/
theorem Tidy.eq_of_id_eq (h : Tidy ρ rows) {r' : Row} (hr : r ∈ rows) (hr' : r' ∈ rows)
    (hid : r.id = r'.id) : r = r' :=
  List.inj_on_of_nodup_map h.nodup hr hr' hid

/-- Looking up in tidy rows. -/
theorem Tidy.lookup_eq (h : Tidy ρ rows) (k : Spec) :
    (match row? k rows with
      | none => Except.ok none
      | some r => do
        let fields ← fieldsOf r.document
        let x ← Stored.ofFields fields
        return some x) = .ok (record? ρ rows k) := by
  cases hr : row? k rows with
  | none => exact congrArg Except.ok (h.record?_eq_none_iff.2 hr).symm
  | some r =>
    obtain ⟨x, hdocument, hx⟩ := h.record?_of_row? hr
    rw [hx]
    simp only [hdocument]
    exact bind_document x fun x => .ok (some x)

/-! ### Adding and replacing -/

/-- A new row leaves rows tidy. -/
theorem Tidy.append (h : Tidy ρ rows) (k : Spec) (x : ρ) :
    Tidy ρ (rows ++ [⟨rows.length + 1, k, Stored.document x⟩]) := by
  refine ⟨fun r hr => ?_, ?_, fun r hr => ?_⟩
  · rcases List.mem_append.1 hr with hr | hr
    · exact h.documents r hr
    · obtain rfl := List.mem_singleton.1 hr
      exact ⟨x, rfl⟩
  · rw [List.map_append, List.map_singleton]
    refine h.nodup.append (List.nodup_singleton _) ?_
    rw [List.disjoint_singleton]
    intro hmem
    obtain ⟨r, hr, hid⟩ := List.mem_map.1 hmem
    have hnext : r.id = rows.length + 1 := hid
    have hbounded := h.bounded r hr
    omega
  · rw [List.length_append, List.length_singleton]
    rcases List.mem_append.1 hr with hr | hr
    · exact Nat.le_succ_of_le (h.bounded r hr)
    · obtain rfl := List.mem_singleton.1 hr
      exact Nat.le_refl _

/-- A new row is found under its own spec. -/
theorem record?_append {id : Nat} (hnone : row? k rows = none) (x : ρ) :
    record? ρ (rows ++ [⟨id, k, Stored.document x⟩]) =
      Function.update (record? ρ rows) k (some x) := by
  funext k'
  unfold record?
  rw [row?_append]
  by_cases hk : k' = k
  · subst hk
    rw [Function.update_self, hnone, Option.none_or, if_pos rfl, Option.bind_some, read_document]
    rfl
  · rw [Function.update_of_ne hk, if_neg (Ne.symm hk), Option.or_none]

/-- A replaced document leaves rows tidy. -/
theorem Tidy.replace (h : Tidy ρ rows) (id : Nat) (x : ρ) :
    Tidy ρ (replaceDocument id (Stored.document x) rows) := by
  have hids : (replaceDocument id (Stored.document x) rows).map Row.id = rows.map Row.id := by
    unfold replaceDocument
    rw [List.map_map]
    refine List.map_congr_left fun r _ => ?_
    simp only [Function.comp]
    split <;> rfl
  refine ⟨fun r hr => ?_, hids ▸ h.nodup, fun r hr => ?_⟩
  · obtain ⟨r', hr', rfl⟩ := List.mem_map.1 hr
    split
    · exact ⟨x, rfl⟩
    · exact h.documents r' hr'
  · have hmem : r.id ∈ rows.map Row.id := hids ▸ List.mem_map_of_mem hr
    obtain ⟨r', hr', hid⟩ := List.mem_map.1 hmem
    have hlength : (replaceDocument id (Stored.document x) rows).length = rows.length :=
      List.length_map _
    rw [hlength, ← hid]
    exact h.bounded r' hr'

/-- A replaced document is found under the spec of its row. -/
theorem Tidy.record?_replace (h : Tidy ρ rows) (hr : row? k rows = some r) (x : ρ) :
    record? ρ (replaceDocument r.id (Stored.document x) rows) =
      Function.update (record? ρ rows) k (some x) := by
  funext k'
  unfold record?
  rw [row?_replaceDocument]
  by_cases hk : k' = k
  · subst hk
    rw [Function.update_self, hr, Option.map_some, Option.bind_some, if_pos (beq_self_eq_true _),
      read_document]
    rfl
  · rw [Function.update_of_ne hk]
    cases hr' : row? k' rows with
    | none => rfl
    | some r' =>
      have hne : (r'.id == r.id) = false := by
        refine beq_eq_false_iff_ne.2 fun hid => hk ?_
        have heq := h.eq_of_id_eq (mem_of_row? hr') (mem_of_row? hr) hid
        rw [← spec_of_row? hr', ← spec_of_row? hr, heq]
      rw [Option.map_some, hne]
      rfl

end

/-! ### The catalog -/

/-- The content of a relational catalog. -/
def view (c : Relational) : View where
  database name := (c.databases.lookup name).bind fun v => (read DatabaseRecord v).toOption
  table := record? TableRecord c.tables
  partition := record? PartitionRecord c.partitions

/-- Relational catalogs as requests leave them. -/
structure Sound (c : Relational) : Prop where
  whole : c.isBroken = false
  databases : ∀ name v, c.databases.lookup name = some v →
    ∃ d : DatabaseRecord, v = Stored.document d
  tables : Tidy TableRecord c.tables
  partitions : Tidy PartitionRecord c.partitions

section

variable {c : Relational} {now : Int}

theorem getDatabase_eq (h : c.Sound) (name : String) :
    c.getDatabase name = .ok (c.view.database name) := by
  have hview : c.view.database name =
    (c.databases.lookup name).bind fun v => (read DatabaseRecord v).toOption := rfl
  rw [hview]
  unfold getDatabase
  cases hv : c.databases.lookup name with
  | none => rfl
  | some v =>
    obtain ⟨d, rfl⟩ := h.databases name v hv
    rw [Option.bind_some, read_document]
    exact bind_document d fun d => .ok (some d)

theorem isSome_database (h : c.Sound) (name : String) :
    (c.databases.lookup name).isSome = (c.view.database name).isSome := by
  have hview : c.view.database name =
    (c.databases.lookup name).bind fun v => (read DatabaseRecord v).toOption := rfl
  rw [hview]
  cases hv : c.databases.lookup name with
  | none => rfl
  | some v =>
    obtain ⟨d, rfl⟩ := h.databases name v hv
    rw [Option.bind_some, read_document]
    rfl

theorem getTable_eq (h : c.Sound) (k : Spec) :
    c.getTable k = .ok (c.view.table k.tableSpec) := h.tables.lookup_eq k.tableSpec

theorem getPartition_eq (h : c.Sound) (k : Spec) :
    c.getPartition k = .ok (c.view.partition k) := h.partitions.lookup_eq k

/-- The rows under a spec answer whether its record is there. -/
theorem Tidy.isSome_row? {ρ : Type} [Stored ρ] {rows : List Row} (h : Tidy ρ rows) (k : Spec) :
    (row? k rows).isSome = (record? ρ rows k).isSome := by
  cases hr : row? k rows with
  | none =>
    rw [h.record?_eq_none_iff.2 hr]
    rfl
  | some r =>
    obtain ⟨x, -, hx⟩ := h.record?_of_row? hr
    rw [hx]
    rfl

theorem serve_eq (h : c.Sound) (r : Request) : c.serve now false r = c.serveWhole now r := by
  unfold serve
  rw [if_neg (by simp [h.whole]), if_neg (by simp)]

theorem serve_rejects (now : Int) (h : c.Sound) {r : Request} {e : Error}
    (he : c.view.rejection? r = some e) :
    c.serve now false r = (.error (.catalog e), c) := by
  rw [serve_eq h]
  cases r with
  | getDatabase name => cases he
  | createDatabaseIfAbsent d => cases he
  | getTable k => cases he
  | getPartition k => cases he
  | listPartitionNames k => cases he
  | createTable t =>
    have hrow : (row? t.spec c.tables).isSome = (c.view.table t.spec).isSome :=
      h.tables.isSome_row? t.spec
    show c.changed (c.createTable now t) = _
    unfold createTable
    rw [getDatabase_eq h, hrow]
    simp only [View.rejection?] at he
    cases hd : c.view.database t.database <;> cases ht : c.view.table t.spec <;>
      simp_all [changed, bind, Except.bind]
  | addPartition p =>
    have hrow : (row? p.spec c.partitions).isSome = (c.view.partition p.spec).isSome :=
      h.partitions.isSome_row? p.spec
    have htable : c.getTable p.spec.tableSpec = .ok (c.view.table p.spec.tableSpec) :=
      getTable_eq h p.spec.tableSpec
    show c.changed (c.addPartition now p) = _
    unfold addPartition
    rw [htable, hrow]
    simp only [View.rejection?] at he
    cases ht : c.view.table p.spec.tableSpec <;> cases hp : c.view.partition p.spec <;>
      simp_all [changed, bind, Except.bind]
  | alterTable t =>
    simp only [View.rejection?, Option.isNone_iff_eq_none] at he
    split at he
    · cases he
      have hr : row? t.spec c.tables = none := h.tables.record?_eq_none_iff.1 ‹_›
      show c.changed (c.alterTable now t) = _
      rw [alterTable, hr]
      rfl
    · cases he
  | alterPartition k p =>
    simp only [View.rejection?, Option.isNone_iff_eq_none] at he
    split at he
    · cases he
      have hr : row? k c.partitions = none := h.partitions.record?_eq_none_iff.1 ‹_›
      show c.changed (c.alterPartition now k p) = _
      rw [alterPartition, hr]
      rfl
    · cases he

/-! ### Requests that are accepted -/

theorem createTable_eq (now : Int) (h : c.Sound) {t : TableRecord}
    (hr : c.view.rejection? (.createTable t) = none) :
    row? t.spec c.tables = none ∧ c.createTable now t = .ok { c with
      tables := c.tables ++ [⟨c.tables.length + 1, t.spec,
        Stored.document (stamp now (c.tables.length + 1 : Nat) none t)⟩] } := by
  obtain ⟨hd, ht⟩ := View.createTable_accepted.1 hr
  obtain ⟨d, hd⟩ := Option.isSome_iff_exists.1 hd
  have hrow : row? t.spec c.tables = none := by
    rw [← Option.not_isSome_iff_eq_none, h.tables.isSome_row? t.spec]
    exact ne_of_eq_of_ne ht Bool.false_ne_true
  refine ⟨hrow, ?_⟩
  unfold createTable
  rw [getDatabase_eq h, hd, hrow]
  rfl

theorem addPartition_eq (now : Int) (h : c.Sound) {p : PartitionRecord}
    (hr : c.view.rejection? (.addPartition p) = none) :
    row? p.spec c.partitions = none ∧ c.addPartition now p = .ok { c with
      partitions := c.partitions ++ [⟨c.partitions.length + 1, p.spec,
        Stored.document (stamp now (c.partitions.length + 1 : Nat) none p)⟩] } := by
  obtain ⟨ht, hp⟩ := View.addPartition_accepted.1 hr
  obtain ⟨t, ht⟩ := Option.isSome_iff_exists.1 ht
  have htable : c.getTable p.spec.tableSpec = .ok (some t) :=
    (getTable_eq h p.spec.tableSpec).trans (congrArg Except.ok ht)
  have hrow : row? p.spec c.partitions = none := by
    rw [← Option.not_isSome_iff_eq_none, h.partitions.isSome_row? p.spec]
    exact ne_of_eq_of_ne hp Bool.false_ne_true
  refine ⟨hrow, ?_⟩
  unfold addPartition
  rw [htable, hrow]
  rfl

/-- The row in which a record is found under a spec. -/
theorem Tidy.row?_of_record? {ρ : Type} [Stored ρ] {rows : List Row} {k : Spec} {x : ρ}
    (h : Tidy ρ rows) (hx : record? ρ rows k = some x) :
    ∃ r, row? k rows = some r ∧ r.document = Stored.document x := by
  have hk : (row? k rows).isSome = true := by
    rw [h.isSome_row? k, hx]
    rfl
  obtain ⟨r, hr⟩ := Option.isSome_iff_exists.1 hk
  obtain ⟨y, hdocument, hy⟩ := h.record?_of_row? hr
  rw [hx] at hy
  cases hy
  exact ⟨r, hr, hdocument⟩

theorem alterTable_eq (now : Int) (h : c.Sound) {t stored : TableRecord}
    (ht : c.view.table t.spec = some stored) :
    ∃ r, row? t.spec c.tables = some r ∧ c.alterTable now t = .ok { c with
      tables := replaceDocument r.id
        (Stored.document (stamp now r.id stored.body.stamp.createTime t)) c.tables } := by
  obtain ⟨r, hrow, hdocument⟩ := h.tables.row?_of_record? ht
  refine ⟨r, hrow, ?_⟩
  unfold alterTable
  rw [hrow]
  simp only [hdocument]
  exact bind_document stored _

theorem alterPartition_eq (now : Int) (h : c.Sound) {k : Spec} {p stored : PartitionRecord}
    (hp : c.view.partition k = some stored) :
    ∃ r, row? k c.partitions = some r ∧ c.alterPartition now k p = .ok { c with
      partitions := replaceDocument r.id
        (Stored.document (stamp now r.id stored.body.stamp.createTime p)) c.partitions } := by
  obtain ⟨r, hrow, hdocument⟩ := h.partitions.row?_of_record? hp
  refine ⟨r, hrow, ?_⟩
  unfold alterPartition
  rw [hrow]
  simp only [hdocument]
  exact bind_document stored _

/-- A new name is looked up with its own document. -/
theorem lookup_append {names : List (String × Value)} {name : String}
    (h : names.lookup name = none) (v : Value) (name' : String) :
    (names ++ [(name, v)]).lookup name' = if name' = name then some v else names.lookup name' := by
  rw [List.lookup_append]
  by_cases hname : name' = name
  · subst hname
    rw [h, if_pos rfl, Option.none_or, List.lookup_cons_self]
  · have hb : (name' == name) = false := beq_eq_false_iff_ne.2 hname
    rw [if_neg hname, List.lookup_cons, hb, List.lookup_nil, Option.or_none]

theorem createDatabaseIfAbsent_accepted (now : Int) (h : c.Sound) (d : DatabaseRecord) :
    ∃ a, (c.serveWhole now (.createDatabaseIfAbsent d)).1 = .ok a ∧
      c.view.Accepts now (.createDatabaseIfAbsent d) a
        (c.serveWhole now (.createDatabaseIfAbsent d)).2.view ∧
      (c.serveWhole now (.createDatabaseIfAbsent d)).2.Sound := by
  have hisSome := isSome_database h d.name
  cases hd : c.databases.lookup d.name with
  | some v =>
    rw [hd] at hisSome
    have hserve : c.serveWhole now (.createDatabaseIfAbsent d) = (.ok false, c) := by
      simp [serveWhole, hd]
    rw [hserve]
    exact ⟨false, rfl, ⟨by rw [← hisSome]; rfl, by rw [View.ensureDatabase, ← hisSome]; rfl⟩, h⟩
  | none =>
    rw [hd] at hisSome
    have hserve : c.serveWhole now (.createDatabaseIfAbsent d) =
        (.ok true, { c with databases := c.databases ++ [(d.name, Stored.document d)] }) := by
      simp [serveWhole, hd, Stored.document]
    rw [hserve]
    refine ⟨true, rfl, ⟨by rw [← hisSome]; rfl, ?_⟩, h.whole, fun name v hv => ?_, h.tables,
      h.partitions⟩
    · rw [View.ensureDatabase, ← hisSome]
      refine View.ext (funext fun name => ?_) rfl rfl
      show ((c.databases ++ [(d.name, Stored.document d)]).lookup name).bind _ =
        Function.update c.view.database d.name (some d) name
      rw [lookup_append hd]
      by_cases hname : name = d.name
      · subst hname
        rw [Function.update_self, if_pos rfl, Option.bind_some, read_document]
        rfl
      · rw [Function.update_of_ne hname, if_neg hname]
        rfl
    · rw [lookup_append hd] at hv
      split at hv
      · exact ⟨d, (Option.some.inj hv).symm⟩
      · exact h.databases name v hv

theorem serve_accepts (now : Int) (h : c.Sound) {r : Request} (hr : c.view.rejection? r = none) :
    ∃ a, (c.serve now false r).1 = .ok a ∧
      c.view.Accepts now r a (c.serve now false r).2.view ∧ (c.serve now false r).2.Sound := by
  rw [serve_eq h]
  cases r with
  | getDatabase name => exact ⟨_, getDatabase_eq h name, ⟨rfl, rfl⟩, h⟩
  | getTable k => exact ⟨_, getTable_eq h k, ⟨rfl, rfl⟩, h⟩
  | getPartition k => exact ⟨_, getPartition_eq h k, ⟨rfl, rfl⟩, h⟩
  | listPartitionNames k => exact ⟨_, rfl, rfl, h⟩
  | createDatabaseIfAbsent d => exact createDatabaseIfAbsent_accepted now h d
  | createTable t =>
    obtain ⟨hrow, hcreate⟩ := createTable_eq now h hr
    have hserve : c.serveWhole now (.createTable t) = c.changed (c.createTable now t) := rfl
    rw [hserve, hcreate]
    exact ⟨(), rfl, ⟨_, View.ext rfl (record?_append hrow _) rfl⟩,
      h.whole, h.databases, h.tables.append _ _, h.partitions⟩
  | addPartition p =>
    obtain ⟨hrow, hadd⟩ := addPartition_eq now h hr
    have hserve : c.serveWhole now (.addPartition p) = c.changed (c.addPartition now p) := rfl
    rw [hserve, hadd]
    exact ⟨(), rfl, ⟨_, View.ext rfl rfl (record?_append hrow _)⟩,
      h.whole, h.databases, h.tables, h.partitions.append _ _⟩
  | alterTable t =>
    obtain ⟨stored, ht⟩ := Option.isSome_iff_exists.1 (View.alterTable_accepted.1 hr)
    obtain ⟨r, hrow, halter⟩ := alterTable_eq now h ht
    have hserve : c.serveWhole now (.alterTable t) = c.changed (c.alterTable now t) := rfl
    rw [hserve, halter]
    exact ⟨(), rfl, ⟨_, _, View.ext rfl (h.tables.record?_replace hrow _) rfl⟩,
      h.whole, h.databases, h.tables.replace _ _, h.partitions⟩
  | alterPartition k p =>
    obtain ⟨stored, hp⟩ := Option.isSome_iff_exists.1 (View.alterPartition_accepted.1 hr)
    obtain ⟨r, hrow, halter⟩ := alterPartition_eq now h hp
    have hserve : c.serveWhole now (.alterPartition k p) = c.changed (c.alterPartition now k p) :=
      rfl
    rw [hserve, halter]
    exact ⟨(), rfl, ⟨_, _, View.ext rfl rfl (h.partitions.record?_replace hrow _)⟩,
      h.whole, h.databases, h.tables, h.partitions.replace _ _⟩

theorem serve_looks (h : c.Sound) {r : Request} (hr : r.isLookup = true) :
    (c.serve now false r).2 = c := by
  rw [serve_eq h]
  cases r <;> first | rfl | cases hr

end

/-- Requests leave a catalog sound, with its tables under their own specs. -/
theorem sound_serve {c : Relational} {now : Int} {r : Request} (h : c.Sound ∧ c.view.Named) :
    (c.serve now false r).2.Sound ∧ (c.serve now false r).2.view.Named := by
  cases hr : c.view.rejection? r with
  | some e =>
    rw [serve_rejects now h.1 hr]
    exact h
  | none =>
    obtain ⟨a, -, hview, hsound⟩ := serve_accepts now h.1 hr
    exact ⟨hsound, h.2.accepts hview⟩

theorem sound_empty : Sound {} ∧ (view {}).Named :=
  ⟨⟨rfl, nofun, tidy_nil, tidy_nil⟩, nofun⟩

end Relational

/-- Relational catalogs that can be written to keep to the contract. -/
def relational : Service where
  State := { c : Relational // c.Sound ∧ c.view.Named }
  view s := s.1.view
  serve now r s := ((s.1.serve now false r).1,
    ⟨(s.1.serve now false r).2, Relational.sound_serve s.2⟩)
  rejects {now r s e} h := by
    have hs := Relational.serve_rejects now s.2.1 h
    simp only [hs]
  accepts {now r s} h := by
    obtain ⟨a, ha, hview, -⟩ := Relational.serve_accepts now s.2.1 h
    exact ⟨a, ha, hview⟩
  looks {now r s} h := Subtype.ext (Relational.serve_looks s.2.1 h)
  table_spec {s k t} h := s.2.2 k t h

end CatalogReplication.Catalog
