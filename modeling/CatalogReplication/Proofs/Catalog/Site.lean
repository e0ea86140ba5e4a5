import CatalogReplication.Proofs.Catalog.View
import CatalogReplication.Record.Any

/-!
# Where requests write

A site is a place of a catalog: a database, a table or a partition. Every change writes at one site
(`Request.site?`), and an accepted one leaves all the others as they were
(`View.Accepts.record?_eq`). The database of a site is there for good once it is there
(`View.Accepts.database_kept`).
-/

namespace CatalogReplication

namespace Catalog

/-- A place of a catalog. -/
inductive Site where
  | database (name : String)
  | table (spec : Spec)
  | partition (spec : Spec)
deriving DecidableEq

/-- The place of a table or of a partition. -/
def Site.object (k : Spec) : Site := if k.isPartition then .partition k else .table k

/-- The record at a place. -/
def View.record? (v : View) : Site → Option AnyRecord
  | .database name => (v.database name).map .database
  | .table k => (v.table k).map fun t => .object (.table t)
  | .partition k => (v.partition k).map fun p => .object (.partition p)

/-- The place that a request writes. -/
def Request.site? : Request → Option Site
  | .createDatabaseIfAbsent d => some (.database d.name)
  | .createTable t => some (.table t.spec)
  | .alterTable t => some (.table t.spec)
  | .addPartition p => some (.partition p.spec)
  | .alterPartition k _ => some (.partition k)
  | _ => none

theorem Request.site?_eq_none_iff (r : Request) : r.site? = none ↔ r.isLookup = true := by
  cases r <;> simp [site?, isLookup]

namespace View

variable {v v' : View} {s : Site}

theorem record?_putTable {k : Spec} (h : s ≠ .table k) (t : TableRecord) (v : View) :
    (v.putTable k t).record? s = v.record? s := by
  cases s with
  | database name => rfl
  | partition k' => rfl
  | table k' =>
    have hk : k' ≠ k := fun heq => h (heq ▸ rfl)
    simp [record?, putTable, Function.update_of_ne hk]

theorem record?_putPartition {k : Spec} (h : s ≠ .partition k) (p : PartitionRecord) (v : View) :
    (v.putPartition k p).record? s = v.record? s := by
  cases s with
  | database name => rfl
  | table k' => rfl
  | partition k' =>
    have hk : k' ≠ k := fun heq => h (heq ▸ rfl)
    simp [record?, putPartition, Function.update_of_ne hk]

theorem record?_ensureDatabase {d : DatabaseRecord} (h : s ≠ .database d.name) (v : View) :
    (v.ensureDatabase d).record? s = v.record? s := by
  unfold ensureDatabase
  split
  · rfl
  · cases s with
    | table k => rfl
    | partition k => rfl
    | database name =>
      have hname : name ≠ d.name := fun heq => h (heq ▸ rfl)
      simp [record?, putDatabase, Function.update_of_ne hname]

/-- An accepted request leaves all places alone but the one that it writes. -/
theorem Accepts.record?_eq {now : Int} {r : Request} {a : r.Answer} (h : v.Accepts now r a v')
    (hs : r.site? ≠ some s) : v'.record? s = v.record? s := by
  have hne : ∀ {s'}, r.site? = some s' → s ≠ s' := fun hr heq => hs (heq ▸ hr)
  cases r with
  | createDatabaseIfAbsent d =>
    obtain ⟨-, rfl⟩ := h
    exact record?_ensureDatabase (hne rfl) v
  | createTable t =>
    obtain ⟨id, rfl⟩ := h
    exact record?_putTable (hne rfl) _ v
  | alterTable t =>
    obtain ⟨id, created, rfl⟩ := h
    exact record?_putTable (hne rfl) _ v
  | addPartition p =>
    obtain ⟨id, rfl⟩ := h
    exact record?_putPartition (hne rfl) _ v
  | alterPartition k p =>
    obtain ⟨id, created, rfl⟩ := h
    exact record?_putPartition (hne rfl) _ v
  | listPartitionNames k =>
    obtain rfl : v' = v := h
    rfl
  | getDatabase name =>
    obtain ⟨-, rfl⟩ := h
    rfl
  | getTable k =>
    obtain ⟨-, rfl⟩ := h
    rfl
  | getPartition k =>
    obtain ⟨-, rfl⟩ := h
    rfl

/-- An accepted request leaves every database alone that was there. -/
theorem Accepts.database_kept {now : Int} {r : Request} {a : r.Answer} {name : String}
    {d : DatabaseRecord} (h : v.Accepts now r a v') (hd : v.database name = some d) :
    v'.database name = some d := by
  have hrecord : v.record? (.database name) = some (.database d) := by
    rw [record?, hd]
    rfl
  by_cases hs : r.site? = some (.database name)
  · cases r with
    | createDatabaseIfAbsent d' =>
      obtain ⟨-, rfl⟩ := h
      have hname : d'.name = name := by simpa [Request.site?] using hs
      have hthere : (v.database d'.name).isSome = true := by rw [hname, hd]; rfl
      rw [ensureDatabase, if_pos hthere]
      exact hd
    | _ => cases hs
  · have hsame := h.record?_eq hs
    rw [hrecord] at hsame
    obtain ⟨d', hd', heq⟩ := Option.map_eq_some_iff.1 hsame
    rw [hd', AnyRecord.database.inj heq]

end View

end Catalog

/-! ### The places of tables and partitions -/

open Catalog (View Request Site)

/-- Records with a place of their own kind. -/
class Sited (ρ : Type) extends Catalogued ρ where
  site : Spec → Site
  inject : ρ → CatalogRecord
  inject_injective : Function.Injective inject
  body_inject : ∀ x : ρ, (inject x).body = Maintained.body x
  record?_site : ∀ (k : Spec) (v : View),
    v.record? (site k) = (Catalogued.find k v).map fun x : ρ => .object (inject x)
  site?_create : ∀ x : ρ, (Replicable.create x).site? = some (site (Replicable.spec x))
  site?_alter : ∀ (k : Spec) (x : ρ),
    (Replicable.alter k x).site? = some (site (Catalogued.alterKey k x))
  site_key : ∀ k : Spec, site (Catalogued.key ρ k) = site k
  database_key : ∀ k : Spec, (Catalogued.key ρ k).database = k.database
  object_spec : ∀ x : ρ, Site.object (Replicable.spec x) = site (Replicable.spec x)

instance : Sited TableRecord where
  site k := .table k.tableSpec
  inject := .table
  inject_injective _ _ := CatalogRecord.table.inj
  body_inject _ := rfl
  record?_site _ _ := rfl
  site?_create _ := rfl
  site?_alter _ _ := rfl
  site_key _ := rfl
  database_key _ := rfl
  object_spec _ := rfl

instance : Sited PartitionRecord where
  site := .partition
  inject := .partition
  inject_injective _ _ := CatalogRecord.partition.inj
  body_inject _ := rfl
  record?_site _ _ := rfl
  site?_create _ := rfl
  site?_alter _ _ := rfl
  site_key _ := rfl
  database_key _ := rfl
  object_spec _ := rfl

/-- What is found at a place is what its record is. -/
theorem Sited.find_congr {ρ : Type} [Sited ρ] {k : Spec} {v v' : View}
    (h : v'.record? (Sited.site ρ k) = v.record? (Sited.site ρ k)) :
    Catalogued.find (ρ := ρ) k v' = Catalogued.find k v := by
  rw [Sited.record?_site, Sited.record?_site] at h
  refine (Option.map_inj_right fun x y hxy => ?_).1 h
  exact Sited.inject_injective (AnyRecord.object.inj hxy)

end CatalogReplication
