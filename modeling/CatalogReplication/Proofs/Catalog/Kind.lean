import CatalogReplication.Proofs.Catalog.Agreement
import CatalogReplication.Proofs.Catalog.Register

/-!
# Kinds of catalogs

A kind of catalogs is told by its states and by how it serves requests in them. It keeps a register,
in which an accepted request enters what it creates; a request that fails leaves the state as it is.
The kinds are keyed catalogs (`Kind.keyed`) and relational ones (`Kind.relational`), which can be
locked while they are asked.
-/

namespace CatalogReplication.Catalog

/-- A kind of catalogs. -/
structure Kind where
  State : Type
  /-- The circumstances in which a request is served. -/
  Occasion : Type
  time : Occasion → Int
  /-- A new catalog. -/
  empty : State
  serve : Occasion → (r : Request) → State → Except Failure r.Answer × State
  view : State → View
  register : State → Register
  /-- What holds of a new catalog and is kept by requests. -/
  Sound : State → Prop
  sound_empty : Sound empty
  register_empty : register empty = {}
  sound_serve : ∀ {s : State} (o : Occasion) (r : Request), Sound s → Sound (serve o r s).2
  refused : ∀ {o : Occasion} {r : Request} {s : State} {e : Failure}, Sound s →
    (serve o r s).1 = .error e → (serve o r s).2 = s
  accepted : ∀ {o : Occasion} {r : Request} {s : State} {a : r.Answer}, Sound s →
    (serve o r s).1 = .ok a → (view s).Accepts (time o) r a (view (serve o r s).2)
  entered : ∀ {o : Occasion} {r : Request} {s : State} {a : r.Answer}, Sound s →
    (serve o r s).1 = .ok a →
      ∃ n, (register s).Admits r n ∧ register (serve o r s).2 = (register s).enter r n
  listed : ∀ {s : State} (o : Occasion) (k : Spec), Sound s →
    (serve o (.listPartitionNames k) s).1 = .ok (namesOf k (register s).partitionSpecs)
  lists : ∀ {s : State}, Sound s → (register s).Lists (view s)

/-! ### Keyed catalogs -/

namespace Keyed

section

variable {ρ : Type} [Maintained ρ] {m : Assoc Spec ρ} {k : Spec}

/-- What a register lists of a map. -/
def entries (m : Assoc Spec ρ) : List (Spec × Option Int) := m.map fun e => (e.1, number e.2)

theorem map_fst_entries (m : Assoc Spec ρ) : (entries m).map Prod.fst = Assoc.keys m := by
  unfold entries Assoc.keys
  rw [List.map_map]
  rfl

theorem entries_put_of_not_mem (h : k ∉ Assoc.keys m) (x : ρ) :
    entries (Assoc.put k x m) = entries m ++ [(k, number x)] := by
  rw [Assoc.put_of_not_mem h, entries, List.map_append]
  rfl

theorem mem_entries {x : ρ} (h : m.lookup k = some x) : (k, number x) ∈ entries m := by
  obtain ⟨l₁, l₂, hm, -⟩ := List.lookup_eq_some_iff.1 h
  subst hm
  simp [entries]

theorem number_mem_entries {x : ρ} (h : m.lookup k = some x) :
    number x ∈ (entries m).map Prod.snd := List.mem_map_of_mem (f := Prod.snd) (mem_entries h)

theorem mem_specs_iff (m : Assoc Spec ρ) (k : Spec) :
    k ∈ (entries m).map Prod.fst ↔ (m.lookup k).isSome = true := by
  rw [map_fst_entries, ← Assoc.hasKey_iff_mem_keys, hasKey_eq_isSome]

theorem not_mem_keys {α : Type} {m : Assoc Spec α} (h : (m.lookup k).isSome = false) :
    k ∉ Assoc.keys m := by
  rw [← Assoc.hasKey_iff_mem_keys, hasKey_eq_isSome, h]
  exact Bool.false_ne_true

end

/-- What a keyed catalog keeps. -/
def register (c : Keyed) : Register where
  databases := Assoc.keys c.databases
  tables := entries c.tables
  partitions := entries c.partitions

theorem tableSpecs_register (c : Keyed) : c.register.tableSpecs = Assoc.keys c.tables :=
  map_fst_entries c.tables

theorem partitionSpecs_register (c : Keyed) : c.register.partitionSpecs = Assoc.keys c.partitions :=
  map_fst_entries c.partitions

theorem lists_register (c : Keyed) : c.register.Lists c.view where
  databases _ := Assoc.hasKey_iff_mem_keys.symm
  tableSpecs := mem_specs_iff c.tables
  partitionSpecs := mem_specs_iff c.partitions
  tables _ _ := mem_entries
  partitions _ _ := mem_entries

/-- The numbers of all records are among those that were given, each to one record. -/
structure Numbered (c : Keyed) : Prop where
  given : ∀ n ∈ c.register.numbers, ∃ i : Nat, n = some (i : Int) ∧ i ≤ c.lastId
  distinct : c.register.numbers.Nodup

section

variable {c : Keyed}

theorem numbered_empty : Numbered {} := by
  refine ⟨?_, List.nodup_nil⟩
  intro n hn
  cases hn

/-- The next number is free. -/
theorem Numbered.not_mem (h : c.Numbered) :
    some ((c.lastId + 1 : Nat) : Int) ∉ c.register.numbers := by
  intro hmem
  obtain ⟨i, hi, hle⟩ := h.given _ hmem
  have hnext : ((c.lastId + 1 : Nat) : Int) = i := Option.some.inj hi
  omega

theorem Numbered.not_mem_tables (h : c.Numbered) :
    some ((c.lastId + 1 : Nat) : Int) ∉ c.register.tables.map Prod.snd := by
  intro hmem
  apply h.not_mem
  rw [Register.numbers, List.map_append]
  exact List.mem_append_left _ hmem

theorem Numbered.not_mem_partitions (h : c.Numbered) :
    some ((c.lastId + 1 : Nat) : Int) ∉ c.register.partitions.map Prod.snd := by
  intro hmem
  apply h.not_mem
  rw [Register.numbers, List.map_append]
  exact List.mem_append_right _ hmem

/-- A record that replaces another takes over its number. -/
theorem Numbered.number_replaced {ρ : Type} [Maintained ρ] (h : c.Numbered) {stored x : ρ}
    (hmem : number stored ∈ c.register.numbers) (now : Int) (created : Option Int) :
    number (stamp now ((number stored).getD 0) created x) = number stored := by
  obtain ⟨i, hi, -⟩ := h.given _ hmem
  rw [number_stamp, hi]
  rfl

theorem enters_createTable (now : Int) (h : c.Numbered) {t : TableRecord}
    (hr : c.view.rejection? (.createTable t) = none) :
    c.register.Admits (.createTable t) (c.lastId + 1 : Nat) ∧
      (c.serve now (.createTable t)).2.register =
        c.register.enter (.createTable t) (c.lastId + 1 : Nat) ∧
      (c.serve now (.createTable t)).2.lastId = c.lastId + 1 := by
  obtain ⟨hd, ht⟩ := View.createTable_accepted.1 hr
  simp only [view] at hd ht
  have hnew : t.spec ∉ Assoc.keys c.tables := not_mem_keys ht
  have hserve : c.serve now (.createTable t) = c.changed (c.createTable now t) := rfl
  rw [hserve, createTable, hasKey_eq_isSome, hasKey_eq_isSome, hd, ht]
  refine ⟨⟨Assoc.hasKey_iff_mem_keys.1 hd, ?_, h.not_mem_tables⟩, ?_, rfl⟩
  · rw [tableSpecs_register]
    exact hnew
  · refine Register.ext rfl ?_ rfl
    refine (entries_put_of_not_mem hnew _).trans ?_
    rw [number_stamp]
    rfl

theorem enters_addPartition (now : Int) (h : c.Numbered) {p : PartitionRecord}
    (hr : c.view.rejection? (.addPartition p) = none) :
    c.register.Admits (.addPartition p) (c.lastId + 1 : Nat) ∧
      (c.serve now (.addPartition p)).2.register =
        c.register.enter (.addPartition p) (c.lastId + 1 : Nat) ∧
      (c.serve now (.addPartition p)).2.lastId = c.lastId + 1 := by
  obtain ⟨ht, hp⟩ := View.addPartition_accepted.1 hr
  simp only [view] at ht hp
  have hnew : p.spec ∉ Assoc.keys c.partitions := not_mem_keys hp
  have hserve : c.serve now (.addPartition p) = c.changed (c.addPartition now p) := rfl
  rw [hserve, addPartition, hasKey_eq_isSome, hasKey_eq_isSome, ht, hp]
  refine ⟨⟨?_, ?_, h.not_mem_partitions⟩, ?_, rfl⟩
  · rw [tableSpecs_register]
    exact Assoc.hasKey_iff_mem_keys.1 ht
  · rw [partitionSpecs_register]
    exact hnew
  · refine Register.ext rfl rfl ?_
    refine (entries_put_of_not_mem hnew _).trans ?_
    rw [number_stamp]
    rfl

theorem enters_alterTable (now : Int) (h : c.Numbered) {t : TableRecord}
    (hr : c.view.rejection? (.alterTable t) = none) :
    (c.serve now (.alterTable t)).2.register = c.register ∧
      (c.serve now (.alterTable t)).2.lastId = c.lastId := by
  obtain ⟨stored, ht⟩ := Option.isSome_iff_exists.1 (View.alterTable_accepted.1 hr)
  simp only [view] at ht
  have hserve : c.serve now (.alterTable t) = c.changed (c.alterTable now t) := rfl
  rw [hserve, alterTable, ht]
  refine ⟨Register.ext rfl ?_ rfl, rfl⟩
  refine Assoc.map_put_of_lookup ht ?_
  have hmem : number stored ∈ c.register.numbers := by
    rw [Register.numbers, List.map_append]
    exact List.mem_append_left _ (number_mem_entries ht)
  have hnumber := h.number_replaced (x := t) hmem now stored.body.stamp.createTime
  exact congrArg (Prod.mk t.spec) hnumber

theorem enters_alterPartition (now : Int) (h : c.Numbered) {k : Spec} {p : PartitionRecord}
    (hr : c.view.rejection? (.alterPartition k p) = none) :
    (c.serve now (.alterPartition k p)).2.register = c.register ∧
      (c.serve now (.alterPartition k p)).2.lastId = c.lastId := by
  obtain ⟨stored, hp⟩ := Option.isSome_iff_exists.1 (View.alterPartition_accepted.1 hr)
  simp only [view] at hp
  have hserve : c.serve now (.alterPartition k p) = c.changed (c.alterPartition now k p) := rfl
  rw [hserve, alterPartition, hp]
  refine ⟨Register.ext rfl rfl ?_, rfl⟩
  refine Assoc.map_put_of_lookup hp ?_
  have hmem : number stored ∈ c.register.numbers := by
    rw [Register.numbers, List.map_append]
    exact List.mem_append_right _ (number_mem_entries hp)
  have hnumber := h.number_replaced (x := p) hmem now stored.body.stamp.createTime
  exact congrArg (Prod.mk k) hnumber

theorem enters_createDatabase (now : Int) (d : DatabaseRecord) :
    (c.serve now (.createDatabaseIfAbsent d)).2.register =
        c.register.enter (.createDatabaseIfAbsent d) (c.lastId + 1 : Nat) ∧
      (c.serve now (.createDatabaseIfAbsent d)).2.lastId = c.lastId := by
  by_cases hd : d.name ∈ Assoc.keys c.databases
  · have hserve : c.serve now (.createDatabaseIfAbsent d) = (.ok false, c) :=
      if_pos (Assoc.hasKey_iff_mem_keys.2 hd)
    have hold : d.name ∈ c.register.databases := hd
    rw [hserve, Register.enter_database_of_mem hold]
    exact ⟨rfl, rfl⟩
  · have hserve : c.serve now (.createDatabaseIfAbsent d) =
        (.ok true, { c with databases := Assoc.put d.name d c.databases }) :=
      if_neg fun hkey => hd (Assoc.hasKey_iff_mem_keys.1 hkey)
    have hnew : d.name ∉ c.register.databases := hd
    rw [hserve, Register.enter_database_of_not_mem hnew]
    refine ⟨Register.ext ?_ rfl rfl, rfl⟩
    exact (Assoc.keys_put d.name d c.databases).trans (if_neg hd)

/-- An accepted request enters what it creates, and a number is used up for what is numbered. -/
theorem enters (now : Int) (h : c.Numbered) {r : Request} (hr : c.view.rejection? r = none) :
    c.register.Admits r (c.lastId + 1 : Nat) ∧
      (c.serve now r).2.register = c.register.enter r (c.lastId + 1 : Nat) ∧
      (c.serve now r).2.lastId = if r.isNumbered then c.lastId + 1 else c.lastId := by
  cases r with
  | createTable t => exact enters_createTable now h hr
  | addPartition p => exact enters_addPartition now h hr
  | alterTable t => exact ⟨trivial, enters_alterTable now h hr⟩
  | alterPartition k p => exact ⟨trivial, enters_alterPartition now h hr⟩
  | createDatabaseIfAbsent d => exact ⟨trivial, enters_createDatabase now d⟩
  | _ => exact ⟨trivial, rfl, rfl⟩

theorem numbered_serve (now : Int) (r : Request) (h : c.Numbered) : (c.serve now r).2.Numbered := by
  cases hr : c.view.rejection? r with
  | some e =>
    rw [serve_rejects now hr]
    exact h
  | none =>
    obtain ⟨-, hregister, hlast⟩ := enters now h hr
    -- The numbers are those from before, with the next one if the request is numbered.
    have hperm := Register.numbers_enter r (c.lastId + 1 : Nat) c.register
    rw [← hregister] at hperm
    by_cases hnumbered : r.isNumbered = true
    · rw [if_pos hnumbered] at hperm hlast
      refine ⟨fun n hn => ?_, hperm.nodup_iff.2 (List.nodup_cons.2 ⟨h.not_mem, h.distinct⟩)⟩
      rw [hlast]
      rcases List.mem_cons.1 (hperm.mem_iff.1 hn) with rfl | hold
      · exact ⟨c.lastId + 1, rfl, Nat.le_refl _⟩
      · obtain ⟨i, hi, hle⟩ := h.given n hold
        exact ⟨i, hi, by omega⟩
    · rw [if_neg hnumbered] at hperm hlast
      refine ⟨fun n hn => ?_, hperm.nodup_iff.2 h.distinct⟩
      rw [hlast]
      exact h.given n (hperm.mem_iff.1 hn)

/-- A request that fails was rejected. -/
theorem rejection?_of_error {now : Int} {r : Request} {e : Failure}
    (h : (c.serve now r).1 = .error e) : ∃ e', c.view.rejection? r = some e' := by
  cases hr : c.view.rejection? r with
  | some e' => exact ⟨e', rfl⟩
  | none =>
    obtain ⟨a, ha, -⟩ := serve_accepts now hr
    rw [ha] at h
    cases h

/-- A request that is answered wasn't rejected. -/
theorem rejection?_of_ok {now : Int} {r : Request} {a : r.Answer}
    (h : (c.serve now r).1 = .ok a) : c.view.rejection? r = none := by
  cases hr : c.view.rejection? r with
  | none => rfl
  | some e =>
    rw [serve_rejects now hr] at h
    cases h

end

end Keyed

/-- Keyed catalogs are a kind. -/
def Kind.keyed : Kind where
  State := Keyed
  Occasion := Int
  time now := now
  empty := {}
  serve := Keyed.serve
  view := Keyed.view
  register := Keyed.register
  Sound := Keyed.Numbered
  sound_empty := Keyed.numbered_empty
  register_empty := rfl
  sound_serve := Keyed.numbered_serve
  refused {o r s e} _ h := by
    obtain ⟨e', he'⟩ := Keyed.rejection?_of_error h
    rw [Keyed.serve_rejects o he']
  accepted {o r s a} _ h := by
    obtain ⟨a', ha', hview⟩ := Keyed.serve_accepts o (Keyed.rejection?_of_ok h)
    rw [h] at ha'
    cases ha'
    exact hview
  entered {o r s a} hs h := by
    obtain ⟨hadmits, hregister, -⟩ := Keyed.enters o hs (Keyed.rejection?_of_ok h)
    exact ⟨_, hadmits, hregister⟩
  listed {s} o k _ := by
    rw [Keyed.partitionSpecs_register, ← Keyed.partitionNames_eq]
    rfl
  lists {s} _ := s.lists_register

/-! ### Relational catalogs -/

namespace Relational

section

variable (ρ : Type) [Maintained ρ] [Stored ρ]

/-- What a register lists of rows. -/
def entries (rows : List Row) : List (Spec × Option Int) :=
  rows.map fun r => (r.spec, (read ρ r.document).toOption.bind number)

/-- Every row has a record that shows the number of the row. -/
def Numbered (rows : List Row) : Prop :=
  ∀ r ∈ rows, ∃ x : ρ, r.document = Stored.document x ∧ number x = some (r.id : Int)

end

section

variable {ρ : Type} [Maintained ρ] [Stored ρ] {rows : List Row} {k : Spec}

theorem map_fst_entries (rows : List Row) :
    (entries ρ rows).map Prod.fst = rows.map Row.spec := by
  unfold entries
  rw [List.map_map]
  rfl

theorem Numbered.entries_eq (h : Numbered ρ rows) :
    entries ρ rows = rows.map fun r => (r.spec, some (r.id : Int)) := by
  refine List.map_congr_left fun r hr => ?_
  obtain ⟨x, hdocument, hnumber⟩ := h r hr
  rw [hdocument, read_document]
  exact congrArg (Prod.mk r.spec) hnumber

theorem entries_append (id : Nat) (now : Int) (created : Option Int) (x : ρ) :
    entries ρ (rows ++ [⟨id, k, Stored.document (stamp now id created x)⟩]) =
      entries ρ rows ++ [(k, some (id : Int))] := by
  have hlast : (read ρ (Stored.document (stamp now id created x))).toOption.bind number =
      some (id : Int) := by
    rw [read_document]
    exact number_stamp now id created x
  unfold entries
  rw [List.map_append, List.map_singleton, hlast]

theorem Numbered.append (h : Numbered ρ rows) (id : Nat) (now : Int) (created : Option Int)
    (x : ρ) : Numbered ρ (rows ++ [⟨id, k, Stored.document (stamp now id created x)⟩]) := by
  intro r hr
  rcases List.mem_append.1 hr with hold | hlast
  · exact h r hold
  · obtain rfl := List.mem_singleton.1 hlast
    exact ⟨_, rfl, number_stamp now id created x⟩

theorem Numbered.replace (h : Numbered ρ rows) (id : Nat) (now : Int) (created : Option Int)
    (x : ρ) : Numbered ρ (replaceDocument id (Stored.document (stamp now id created x)) rows) := by
  intro r hr
  obtain ⟨r', hr', rfl⟩ := List.mem_map.1 hr
  by_cases hid : (r'.id == id) = true
  · rw [if_pos hid]
    refine ⟨_, rfl, ?_⟩
    rw [number_stamp, beq_iff_eq.1 hid]
  · rw [if_neg hid]
    exact h r' hr'

/-- Replacing a document leaves what is listed of the rows. -/
theorem Numbered.entries_replace (h : Numbered ρ rows) (id : Nat) (now : Int)
    (created : Option Int) (x : ρ) :
    entries ρ (replaceDocument id (Stored.document (stamp now id created x)) rows) =
      entries ρ rows := by
  rw [(h.replace id now created x).entries_eq, h.entries_eq, replaceDocument, List.map_map]
  refine List.map_congr_left fun r _ => ?_
  simp only [Function.comp]
  split <;> rfl

/-- A spec without a row is not listed. -/
theorem not_mem_specs (h : row? k rows = none) : k ∉ (entries ρ rows).map Prod.fst := by
  rw [map_fst_entries]
  intro hmem
  obtain ⟨r, hr, hspec⟩ := List.mem_map.1 hmem
  have hother := List.find?_eq_none.1 h r hr
  exact hother (beq_iff_eq.2 hspec)

theorem mem_specs (h : (row? k rows).isSome = true) : k ∈ (entries ρ rows).map Prod.fst := by
  obtain ⟨r, hr⟩ := Option.isSome_iff_exists.1 h
  rw [map_fst_entries, ← spec_of_row? hr]
  exact List.mem_map_of_mem (mem_of_row? hr)

theorem mem_specs_iff (h : Tidy ρ rows) (k : Spec) :
    k ∈ (entries ρ rows).map Prod.fst ↔ (record? ρ rows k).isSome = true := by
  rw [← h.isSome_row? k]
  constructor
  · intro hmem
    by_contra hnone
    exact not_mem_specs (Option.not_isSome_iff_eq_none.1 hnone) hmem
  · exact mem_specs

theorem mem_entries (h : Tidy ρ rows) {x : ρ} (hx : record? ρ rows k = some x) :
    (k, number x) ∈ entries ρ rows := by
  obtain ⟨r, hrow, hdocument⟩ := h.row?_of_record? hx
  refine List.mem_map.2 ⟨r, mem_of_row? hrow, ?_⟩
  rw [spec_of_row? hrow, hdocument, read_document]
  rfl

/-- The number of the next row is free. -/
theorem Numbered.not_mem (h : Numbered ρ rows) (htidy : Tidy ρ rows) :
    some ((rows.length + 1 : Nat) : Int) ∉ (entries ρ rows).map Prod.snd := by
  rw [h.entries_eq, List.map_map]
  intro hmem
  obtain ⟨r, hr, hid⟩ := List.mem_map.1 hmem
  have hnext : (r.id : Int) = (rows.length + 1 : Nat) := Option.some.inj hid
  have hbounded := htidy.bounded r hr
  omega

end

/-- What a relational catalog keeps. -/
def register (c : Relational) : Register where
  databases := c.databases.map Prod.fst
  tables := entries TableRecord c.tables
  partitions := entries PartitionRecord c.partitions

/-- Relational catalogs as requests leave them, with the numbers of rows in their records. -/
structure Whole (c : Relational) : Prop where
  sound : c.Sound
  tables : Numbered TableRecord c.tables
  partitions : Numbered PartitionRecord c.partitions

section

variable {c : Relational}

theorem whole_empty : Whole {} := by
  refine ⟨sound_empty.1, ?_, ?_⟩
  · intro r hr
    cases hr
  · intro r hr
    cases hr

/-- What a locked catalog answers, it would answer otherwise too, without a change. -/
theorem serveWhole_of_looking {now : Int} {r : Request} {a : r.Answer}
    (h : c.serveLooking now r = .ok a) : c.serveWhole now r = (.ok a, c) := by
  cases r with
  | createDatabaseIfAbsent d =>
    simp only [serveLooking] at h
    split at h
    · cases h
      exact if_pos ‹_›
    · cases h
  | createTable t =>
    exfalso
    simp only [serveLooking] at h
    cases hd : c.getDatabase t.database with
    | error e =>
      rw [hd] at h
      cases h
    | ok d =>
      rw [hd] at h
      cases d <;> cases h
  | addPartition p =>
    exfalso
    simp only [serveLooking] at h
    cases ht : c.getTable p.spec.tableSpec with
    | error e =>
      rw [ht] at h
      cases h
    | ok t =>
      rw [ht] at h
      cases t <;> cases h
  | alterTable t =>
    exfalso
    simp only [serveLooking] at h
    cases ha : c.alterTable now t with
    | error e =>
      rw [ha] at h
      cases h
    | ok c' =>
      rw [ha] at h
      cases h
  | alterPartition k p =>
    exfalso
    simp only [serveLooking] at h
    cases ha : c.alterPartition now k p with
    | error e =>
      rw [ha] at h
      cases h
    | ok c' =>
      rw [ha] at h
      cases h
  | _ => exact Prod.ext h rfl

/-- Whether a catalog was locked shows only in the requests that it refused. -/
theorem serve_of_ok (hc : c.Sound) {now : Int} {isLocked : Bool} {r : Request} {a : r.Answer}
    (h : (c.serve now isLocked r).1 = .ok a) :
    c.serve now isLocked r = c.serve now false r := by
  cases isLocked with
  | false => rfl
  | true =>
    have hlocked : c.serve now true r = (c.serveLooking now r, c) := by
      rw [serve, if_neg (by simp [hc.whole]), if_pos rfl]
    rw [hlocked] at h ⊢
    rw [serve_eq hc, serveWhole_of_looking h]
    exact congrArg (·, c) h

theorem rejection?_of_ok (hc : c.Sound) {now : Int} {r : Request} {a : r.Answer}
    (h : (c.serve now false r).1 = .ok a) : c.view.rejection? r = none := by
  cases hr : c.view.rejection? r with
  | none => rfl
  | some e =>
    rw [serve_rejects now hc hr] at h
    cases h

/-- A request that fails leaves the catalog as it is, locked or not. -/
theorem serve_of_error (hc : c.Sound) {now : Int} {isLocked : Bool} {r : Request} {e : Failure}
    (h : (c.serve now isLocked r).1 = .error e) : (c.serve now isLocked r).2 = c := by
  cases isLocked with
  | true =>
    rw [serve, if_neg (by simp [hc.whole]), if_pos rfl]
  | false =>
    cases hr : c.view.rejection? r with
    | some e' => rw [serve_rejects now hc hr]
    | none =>
      obtain ⟨a, ha, -⟩ := serve_accepts now hc hr
      rw [ha] at h
      cases h

theorem mem_databases (h : c.Sound) (name : String) :
    name ∈ c.register.databases ↔ (c.view.database name).isSome = true := by
  rw [← isSome_database h]
  exact Assoc.hasKey_iff_mem_keys.symm

theorem lists_register (h : c.Sound) : c.register.Lists c.view where
  databases := mem_databases h
  tableSpecs := mem_specs_iff h.tables
  partitionSpecs := mem_specs_iff h.partitions
  tables _ _ := mem_entries h.tables
  partitions _ _ := mem_entries h.partitions

theorem enters_createTable (now : Int) (h : c.Whole) {t : TableRecord}
    (hr : c.view.rejection? (.createTable t) = none) :
    c.register.Admits (.createTable t) (c.tables.length + 1 : Nat) ∧
      (c.serve now false (.createTable t)).2.register =
        c.register.enter (.createTable t) (c.tables.length + 1 : Nat) ∧
      (c.serve now false (.createTable t)).2.Whole := by
  obtain ⟨hd, -⟩ := View.createTable_accepted.1 hr
  obtain ⟨hrow, hcreate⟩ := createTable_eq now h.sound hr
  obtain ⟨a, -, -, hsound⟩ := serve_accepts now h.sound hr
  have hserve : c.serveWhole now (.createTable t) = c.changed (c.createTable now t) := rfl
  rw [serve_eq h.sound, hserve, hcreate] at hsound ⊢
  refine ⟨⟨(mem_databases h.sound _).2 hd, not_mem_specs hrow, h.tables.not_mem h.sound.tables⟩, ?_,
    ⟨hsound, h.tables.append _ now none t, h.partitions⟩⟩
  exact Register.ext rfl (entries_append _ now none t) rfl

theorem enters_addPartition (now : Int) (h : c.Whole) {p : PartitionRecord}
    (hr : c.view.rejection? (.addPartition p) = none) :
    c.register.Admits (.addPartition p) (c.partitions.length + 1 : Nat) ∧
      (c.serve now false (.addPartition p)).2.register =
        c.register.enter (.addPartition p) (c.partitions.length + 1 : Nat) ∧
      (c.serve now false (.addPartition p)).2.Whole := by
  obtain ⟨ht, -⟩ := View.addPartition_accepted.1 hr
  have hparent : (row? p.spec.tableSpec c.tables).isSome = true :=
    (h.sound.tables.isSome_row? _).trans ht
  obtain ⟨hrow, hadd⟩ := addPartition_eq now h.sound hr
  obtain ⟨a, -, -, hsound⟩ := serve_accepts now h.sound hr
  have hserve : c.serveWhole now (.addPartition p) = c.changed (c.addPartition now p) := rfl
  rw [serve_eq h.sound, hserve, hadd] at hsound ⊢
  refine ⟨⟨mem_specs hparent, not_mem_specs hrow, h.partitions.not_mem h.sound.partitions⟩, ?_,
    ⟨hsound, h.tables, h.partitions.append _ now none p⟩⟩
  exact Register.ext rfl rfl (entries_append _ now none p)

theorem enters_alterTable (now : Int) (h : c.Whole) {t : TableRecord}
    (hr : c.view.rejection? (.alterTable t) = none) :
    (c.serve now false (.alterTable t)).2.register = c.register ∧
      (c.serve now false (.alterTable t)).2.Whole := by
  obtain ⟨stored, ht⟩ := Option.isSome_iff_exists.1 (View.alterTable_accepted.1 hr)
  obtain ⟨r, -, halter⟩ := alterTable_eq now h.sound ht
  obtain ⟨a, -, -, hsound⟩ := serve_accepts now h.sound hr
  have hserve : c.serveWhole now (.alterTable t) = c.changed (c.alterTable now t) := rfl
  rw [serve_eq h.sound, hserve, halter] at hsound ⊢
  refine ⟨?_, hsound, h.tables.replace r.id now _ t, h.partitions⟩
  exact Register.ext rfl (h.tables.entries_replace r.id now _ t) rfl

theorem enters_alterPartition (now : Int) (h : c.Whole) {k : Spec} {p : PartitionRecord}
    (hr : c.view.rejection? (.alterPartition k p) = none) :
    (c.serve now false (.alterPartition k p)).2.register = c.register ∧
      (c.serve now false (.alterPartition k p)).2.Whole := by
  obtain ⟨stored, hp⟩ := Option.isSome_iff_exists.1 (View.alterPartition_accepted.1 hr)
  obtain ⟨r, -, halter⟩ := alterPartition_eq now h.sound (p := p) hp
  obtain ⟨a, -, -, hsound⟩ := serve_accepts now h.sound hr
  have hserve : c.serveWhole now (.alterPartition k p) = c.changed (c.alterPartition now k p) := rfl
  rw [serve_eq h.sound, hserve, halter] at hsound ⊢
  refine ⟨?_, hsound, h.tables, h.partitions.replace r.id now _ p⟩
  exact Register.ext rfl rfl (h.partitions.entries_replace r.id now _ p)

theorem enters_createDatabase (now : Int) (h : c.Whole) (d : DatabaseRecord) (n : Int) :
    (c.serve now false (.createDatabaseIfAbsent d)).2.register =
        c.register.enter (.createDatabaseIfAbsent d) n ∧
      (c.serve now false (.createDatabaseIfAbsent d)).2.Whole := by
  obtain ⟨a, -, -, hsound⟩ := createDatabaseIfAbsent_accepted now h.sound d
  rw [serve_eq h.sound]
  by_cases hd : (c.databases.lookup d.name).isSome = true
  · have hserve : c.serveWhole now (.createDatabaseIfAbsent d) = (.ok false, c) := if_pos hd
    have hold : d.name ∈ c.register.databases := Assoc.hasKey_iff_mem_keys.1 hd
    rw [hserve, Register.enter_database_of_mem hold]
    exact ⟨rfl, h⟩
  · have hserve : c.serveWhole now (.createDatabaseIfAbsent d) =
        (.ok true, { c with databases := c.databases ++ [(d.name, d.document)] }) := if_neg hd
    have hnew : d.name ∉ c.register.databases := fun hmem => hd (Assoc.hasKey_iff_mem_keys.2 hmem)
    rw [hserve] at hsound ⊢
    rw [Register.enter_database_of_not_mem hnew]
    exact ⟨Register.ext List.map_append rfl rfl, hsound, h.tables, h.partitions⟩

/-- An accepted request enters what it creates, under the number of its row. -/
theorem enters (now : Int) (h : c.Whole) {r : Request} (hr : c.view.rejection? r = none) :
    ∃ n, c.register.Admits r n ∧ (c.serve now false r).2.register = c.register.enter r n ∧
      (c.serve now false r).2.Whole := by
  cases r with
  | createTable t => exact ⟨_, enters_createTable now h hr⟩
  | addPartition p => exact ⟨_, enters_addPartition now h hr⟩
  | alterTable t => exact ⟨0, trivial, enters_alterTable now h hr⟩
  | alterPartition k p => exact ⟨0, trivial, enters_alterPartition now h hr⟩
  | createDatabaseIfAbsent d => exact ⟨0, trivial, enters_createDatabase now h d 0⟩
  | _ =>
    rw [serve_looks h.sound rfl]
    exact ⟨0, trivial, rfl, h⟩

theorem whole_serve (now : Int) (isLocked : Bool) (r : Request) (h : c.Whole) :
    (c.serve now isLocked r).2.Whole := by
  cases ha : (c.serve now isLocked r).1 with
  | error e =>
    rw [serve_of_error h.sound ha]
    exact h
  | ok a =>
    have hserve := serve_of_ok h.sound ha
    rw [hserve] at ha ⊢
    obtain ⟨n, -, -, hwhole⟩ := enters now h (rejection?_of_ok h.sound ha)
    exact hwhole

end

end Relational

/-- Relational catalogs are a kind. -/
def Kind.relational : Kind where
  State := Relational
  Occasion := Int × Bool
  time o := o.1
  empty := {}
  serve o := Relational.serve o.1 o.2
  view := Relational.view
  register := Relational.register
  Sound := Relational.Whole
  sound_empty := Relational.whole_empty
  register_empty := rfl
  sound_serve o := Relational.whole_serve o.1 o.2
  refused hs := Relational.serve_of_error hs.sound
  accepted {o r s a} hs h := by
    have hserve := Relational.serve_of_ok hs.sound h
    rw [hserve] at h ⊢
    obtain ⟨a', ha', hview, -⟩ :=
      Relational.serve_accepts o.1 hs.sound (Relational.rejection?_of_ok hs.sound h)
    rw [h] at ha'
    cases ha'
    exact hview
  entered {o r s a} hs h := by
    have hserve := Relational.serve_of_ok hs.sound h
    rw [hserve] at h ⊢
    obtain ⟨n, hadmits, hregister, -⟩ :=
      Relational.enters o.1 hs (Relational.rejection?_of_ok hs.sound h)
    exact ⟨n, hadmits, hregister⟩
  listed {s} o k hs := by
    have hspecs : s.register.partitionSpecs = s.partitions.map Row.spec :=
      Relational.map_fst_entries s.partitions
    rw [hspecs, ← Relational.partitionNames_eq]
    cases hlocked : o.2 with
    | false => rw [Relational.serve_eq hs.sound]; rfl
    | true => rw [Relational.serve, if_neg (by simp [hs.sound.whole]), if_pos rfl]; rfl
  lists hs := Relational.lists_register hs.sound

end CatalogReplication.Catalog
