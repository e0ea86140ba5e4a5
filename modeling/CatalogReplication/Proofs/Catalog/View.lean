import CatalogReplication.Proofs.Record.Comparable
import CatalogReplication.Task.Replicate
import Mathlib.Logic.Function.Basic

/-!
# What a catalog holds

A view is the content of a catalog as look-ups show it, whatever the catalog keeps it in. It says
which requests are rejected (`View.rejection?`), and what a request that isn't answers and leaves
behind (`View.Accepts`). Two views are similar if they differ only in what catalogs keep up by
themselves. Tables and partitions are found and put alike; `Catalogued` is what they share.
-/

namespace CatalogReplication

namespace Catalog

/-- The content of a catalog, by names and specs. -/
@[ext] structure View where
  database : String → Option DatabaseRecord
  table : Spec → Option TableRecord
  partition : Spec → Option PartitionRecord

namespace View

/-- Sets a database under its name. -/
def putDatabase (d : DatabaseRecord) (v : View) : View :=
  { v with database := Function.update v.database d.name (some d) }

/-- Adds a database unless there is one of its name. -/
def ensureDatabase (d : DatabaseRecord) (v : View) : View :=
  if (v.database d.name).isSome then v else v.putDatabase d

/-- Sets what is found under the spec of a table. -/
def putTable (k : Spec) (t : TableRecord) (v : View) : View :=
  { v with table := Function.update v.table k (some t) }

/-- Sets what is found under the spec of a partition. -/
def putPartition (k : Spec) (p : PartitionRecord) (v : View) : View :=
  { v with partition := Function.update v.partition k (some p) }

/-- Why a catalog with this content rejects a request, if it does. -/
def rejection? (v : View) : Request → Option Error
  | .createTable t =>
    if (v.database t.database).isNone then some (.databaseMissing t.database)
    else if (v.table t.spec).isSome then some (.tableExists t.spec)
    else none
  | .alterTable t => if (v.table t.spec).isNone then some (.tableMissing t.spec) else none
  | .addPartition p =>
    if (v.table p.spec.tableSpec).isNone then some (.parentMissing p.spec.tableSpec)
    else if (v.partition p.spec).isSome then some (.partitionExists p.spec)
    else none
  | .alterPartition spec _ =>
    if (v.partition spec).isNone then some (.partitionMissing spec) else none
  | _ => none

/-- How a catalog answers a request that it doesn't reject, and what it holds afterwards. Which
number a record gets, and the time of creation that is kept, are the catalog's own affair. -/
def Accepts (now : Int) (v : View) : (r : Request) → r.Answer → View → Prop
  | .getDatabase name, a, v' => a = v.database name ∧ v' = v
  | .createDatabaseIfAbsent d, a, v' => a = !(v.database d.name).isSome ∧ v' = v.ensureDatabase d
  | .getTable spec, a, v' => a = v.table spec.tableSpec ∧ v' = v
  | .createTable t, _, v' => ∃ id, v' = v.putTable t.spec (stamp now id none t)
  | .alterTable t, _, v' => ∃ id created, v' = v.putTable t.spec (stamp now id created t)
  | .getPartition spec, a, v' => a = v.partition spec ∧ v' = v
  | .addPartition p, _, v' => ∃ id, v' = v.putPartition p.spec (stamp now id none p)
  | .alterPartition spec p, _, v' =>
    ∃ id created, v' = v.putPartition spec (stamp now id created p)
  | .listPartitionNames _, _, v' => v' = v

theorem createTable_accepted {t : TableRecord} {v : View} :
    v.rejection? (.createTable t) = none ↔
      (v.database t.database).isSome = true ∧ (v.table t.spec).isSome = false := by
  cases hd : v.database t.database <;> cases ht : v.table t.spec <;> simp [rejection?, hd, ht]

theorem alterTable_accepted {t : TableRecord} {v : View} :
    v.rejection? (.alterTable t) = none ↔ (v.table t.spec).isSome = true := by
  cases ht : v.table t.spec <;> simp [rejection?, ht]

theorem addPartition_accepted {p : PartitionRecord} {v : View} :
    v.rejection? (.addPartition p) = none ↔
      (v.table p.spec.tableSpec).isSome = true ∧ (v.partition p.spec).isSome = false := by
  cases ht : v.table p.spec.tableSpec <;> cases hp : v.partition p.spec <;>
    simp [rejection?, ht, hp]

theorem alterPartition_accepted {k : Spec} {p : PartitionRecord} {v : View} :
    v.rejection? (.alterPartition k p) = none ↔ (v.partition k).isSome = true := by
  cases hp : v.partition k <;> simp [rejection?, hp]

@[simp] theorem table_ensureDatabase (d : DatabaseRecord) (v : View) :
    (v.ensureDatabase d).table = v.table := by
  unfold ensureDatabase
  split <;> rfl

@[simp] theorem partition_ensureDatabase (d : DatabaseRecord) (v : View) :
    (v.ensureDatabase d).partition = v.partition := by
  unfold ensureDatabase
  split <;> rfl

theorem isSome_database_ensureDatabase (d : DatabaseRecord) (v : View) :
    ((v.ensureDatabase d).database d.name).isSome = true := by
  unfold ensureDatabase putDatabase
  split
  · assumption
  · simp

theorem ensureDatabase_ensureDatabase (d : DatabaseRecord) (v : View) :
    (v.ensureDatabase d).ensureDatabase d = v.ensureDatabase d := by
  rw [ensureDatabase, if_pos (isSome_database_ensureDatabase d v)]

end View

/-- Whether a request only looks something up. -/
def Request.isLookup : Request → Bool
  | .getDatabase _ | .getTable _ | .getPartition _ | .listPartitionNames _ => true
  | _ => false

theorem View.rejection?_eq_none_of_isLookup {r : Request} (h : r.isLookup = true) (v : View) :
    v.rejection? r = none := by
  cases r <;> first | rfl | cases h

/-! ### Tables under their own specs -/

namespace View

/-- Tables are found under their own specs. -/
def Named (v : View) : Prop := ∀ k t, v.table k = some t → t.spec = k

theorem Named.putTable {v : View} {k : Spec} {t : TableRecord} (h : v.Named) (ht : t.spec = k) :
    (v.putTable k t).Named := by
  intro k' t' h'
  by_cases hk : k' = k
  · subst hk
    simp only [View.putTable, Function.update_self, Option.some.injEq] at h'
    rw [← h', ht]
  · simp only [View.putTable, Function.update_of_ne hk] at h'
    exact h k' t' h'

/-- What requests leave behind has its tables under their own specs too. -/
theorem Named.accepts {now : Int} {r : Request} {a : r.Answer} {v v' : View} (h : v.Named)
    (ha : v.Accepts now r a v') : v'.Named := by
  cases r with
  | createTable t =>
    obtain ⟨id, rfl⟩ := ha
    exact h.putTable rfl
  | alterTable t =>
    obtain ⟨id, created, rfl⟩ := ha
    exact h.putTable rfl
  | createDatabaseIfAbsent d =>
    obtain ⟨-, rfl⟩ := ha
    intro k t ht
    rw [View.table_ensureDatabase] at ht
    exact h k t ht
  | addPartition p =>
    obtain ⟨id, rfl⟩ := ha
    exact h
  | alterPartition k p =>
    obtain ⟨id, created, rfl⟩ := ha
    exact h
  | listPartitionNames k =>
    obtain rfl : v' = v := ha
    exact h
  | getDatabase name =>
    obtain ⟨-, rfl⟩ := ha
    exact h
  | getTable k =>
    obtain ⟨-, rfl⟩ := ha
    exact h
  | getPartition k =>
    obtain ⟨-, rfl⟩ := ha
    exact h

end View

end Catalog

/-! ### Up to what catalogs keep up -/

open Catalog (View Request)

/-- A body without its stamp and without the time of its last change. -/
def Body.unstamped (b : Body) : Body :=
  { b with parameters := b.parameters.filter fun k _ => k != lastChangeKey, stamp := {} }

/-- A record without its stamp and without the time of its last change. -/
def unstamped {ρ : Type} [Maintained ρ] (r : ρ) : ρ :=
  Maintained.withBody (Maintained.body r).unstamped r

theorem unstamped_stamp {ρ : Type} [Maintained ρ] (now id : Int) (created : Option Int) (r : ρ) :
    unstamped (Catalog.stamp now id created r) = unstamped r := by
  unfold unstamped Catalog.stamp
  rw [Maintained.body_withBody, Maintained.withBody_withBody]
  congr 1
  unfold Catalog.stampBody Body.unstamped
  simp only
  congr 1
  refine Parameters.ext_get? fun k => ?_
  rw [Parameters.get?_filter, Parameters.get?_filter, Parameters.get?_insert]
  by_cases hk : k = lastChangeKey
  · subst hk
    cases (Maintained.body r).parameters.get? lastChangeKey <;> simp
  · rw [if_neg hk]

/-- Views that differ only in what catalogs keep up by themselves. -/
structure Catalog.View.Similar (v v' : View) : Prop where
  database : v.database = v'.database
  table : ∀ k, (v.table k).map unstamped = (v'.table k).map unstamped
  partition : ∀ k, (v.partition k).map unstamped = (v'.partition k).map unstamped

theorem Catalog.View.Similar.refl (v : View) : v.Similar v := ⟨rfl, fun _ => rfl, fun _ => rfl⟩

theorem Catalog.View.Similar.trans {v v' v'' : View} (h : v.Similar v') (h' : v'.Similar v'') :
    v.Similar v'' :=
  ⟨h.database.trans h'.database, fun k => (h.table k).trans (h'.table k),
    fun k => (h.partition k).trans (h'.partition k)⟩

theorem Catalog.View.Similar.ensureDatabase {v v' : View} (h : v.Similar v') (d : DatabaseRecord) :
    (v.ensureDatabase d).Similar (v'.ensureDatabase d) := by
  refine ⟨?_, fun k => ?_, fun k => ?_⟩
  · unfold View.ensureDatabase View.putDatabase
    rw [h.database]
    split
    · exact h.database
    · rfl
  · rw [View.table_ensureDatabase, View.table_ensureDatabase]
    exact h.table k
  · rw [View.partition_ensureDatabase, View.partition_ensureDatabase]
    exact h.partition k

theorem isSome_eq_of_map_unstamped_eq {ρ : Type} [Maintained ρ] {r r' : Option ρ}
    (h : r.map unstamped = r'.map unstamped) : r.isSome = r'.isSome := by
  have hsome := congrArg Option.isSome h
  rwa [Option.isSome_map, Option.isSome_map] at hsome

/-- Similar views reject the same requests, with the same errors. -/
theorem Catalog.View.Similar.rejection? {v v' : View} (h : v.Similar v') (r : Request) :
    v.rejection? r = v'.rejection? r := by
  have htable : ∀ k, (v.table k).isNone = (v'.table k).isNone := fun k => by
    rw [← Option.not_isSome, ← Option.not_isSome, isSome_eq_of_map_unstamped_eq (h.table k)]
  have hpartition : ∀ k, (v.partition k).isNone = (v'.partition k).isNone := fun k => by
    rw [← Option.not_isSome, ← Option.not_isSome, isSome_eq_of_map_unstamped_eq (h.partition k)]
  cases r <;>
    simp only [View.rejection?, h.database, htable, hpartition,
      isSome_eq_of_map_unstamped_eq (h.table _), isSome_eq_of_map_unstamped_eq (h.partition _)]

/-! ### Tables and partitions alike -/

/-- Records that are found in views under specs, and put there by the requests that write them. -/
class Catalogued (ρ : Type) extends Replicable ρ where
  /-- The spec of the record that is found under a spec. -/
  key : Spec → Spec
  find : Spec → View → Option ρ
  put : Spec → ρ → View → View
  /-- The spec under which altering a record writes it. -/
  alterKey : Spec → ρ → Spec
  find_key : ∀ (k : Spec) (v : View), find (key k) v = find k v
  find_put_self : ∀ (k : Spec) (r : ρ) (v : View), find k (put k r v) = some r
  find_ensureDatabase : ∀ (k : Spec) (d : DatabaseRecord) (v : View),
    find k (v.ensureDatabase d) = find k v
  similar_put : ∀ {k : Spec} {r r' : ρ} {v v' : View}, v.Similar v' →
    unstamped r = unstamped r' → (put k r v).Similar (put k r' v')
  put_of_create : ∀ {now : Int} {r : ρ} {v v' : View} {a : (create r).Answer},
    v.Accepts now (create r) a v' → ∃ id, v' = put (spec r) (Catalog.stamp now id none r) v
  put_of_alter : ∀ {now : Int} {k : Spec} {r : ρ} {v v' : View} {a : (alter k r).Answer},
    v.Accepts now (alter k r) a v' →
      ∃ id created, v' = put (alterKey k r) (Catalog.stamp now id created r) v
  spec_withBody : ∀ (b : Body) (r : ρ), spec (Maintained.withBody b r) = spec r
  alterKey_of_spec : ∀ {k : Spec} {r : ρ}, spec r = key k → alterKey k r = key k

instance : Catalogued TableRecord where
  key := Spec.tableSpec
  find k v := v.table k.tableSpec
  put k := View.putTable k.tableSpec
  alterKey _ t := t.spec
  find_key _ _ := rfl
  find_put_self k r v := by simp [View.putTable]
  find_ensureDatabase k d v := by simp
  similar_put {k r r' v v'} hv h := by
    refine ⟨hv.database, fun k' => ?_, hv.partition⟩
    by_cases hk : k' = k.tableSpec
    · subst hk
      simp [View.putTable, h]
    · simp [View.putTable, Function.update_of_ne hk, hv.table]
  put_of_create h := h
  put_of_alter h := h
  spec_withBody _ _ := rfl
  alterKey_of_spec h := h

instance : Catalogued PartitionRecord where
  key k := k
  find k v := v.partition k
  put := View.putPartition
  alterKey k _ := k
  find_key _ _ := rfl
  find_put_self k r v := by simp [View.putPartition]
  find_ensureDatabase k d v := by simp
  similar_put {k r r' v v'} hv h := by
    refine ⟨hv.database, hv.table, fun k' => ?_⟩
    by_cases hk : k' = k
    · subst hk
      simp [View.putPartition, h]
    · simp [View.putPartition, Function.update_of_ne hk, hv.partition]
  put_of_create h := h
  put_of_alter h := h
  spec_withBody _ _ := rfl
  alterKey_of_spec _ := rfl

end CatalogReplication
