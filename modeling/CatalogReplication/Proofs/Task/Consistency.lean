import CatalogReplication.Proofs.Catalog.Relational
import CatalogReplication.Proofs.Task.Replicate

/-!
# Success means consistency

A task that succeeds leaves a record under its spec that counts as the one that the builder makes
from the records there were, and data that is in place (`ReplicationTask.successful_consistent`). A
partition is left under a table with the schema of its table at the source.
-/

namespace CatalogReplication

open CatalogReplication.Task
open Transfer (Carrier)

/-! ### What tasks take for granted -/

namespace Task

/-- Locations are absent or shared, or the carrier finds their trees equal. -/
def InPlace (K : Carrier) (files : K.State) (a b : Option String) : Prop :=
  ∀ s d, a = some s → b = some d → s ≠ d → (K.serve (.equal s d) files).1 = .ok true

theorem Settled.inPlace {K : Carrier} {o : DataOptions} {files : K.State} {a b : Option String}
    (h : Settled K o files a b) : InPlace K files a b := by
  rintro s d rfl rfl hne
  rw [K.serve_equal]
  exact congrArg Except.ok (h.of_ne hne).2

end Task

namespace ReplicationTask

variable {E : Partners}

/-- The record of the source that a task is for names itself. -/
def IsIdentified (w : E.World) : ReplicationTask → Prop
  | table spec _ => ∀ t, w.sourceView.table spec.tableSpec = some t → t.spec = spec.tableSpec
  | partition spec => ∀ p, w.sourceView.partition spec = some p → p.spec = spec

/-- The source, the destination and the staged place of the data of a task lie apart. -/
def DataApart (o : Setup) (w : E.World) : ReplicationTask → Prop
  | table spec _ =>
    ∀ t, w.sourceView.table spec.tableSpec = some t → (Item.ofTable spec t).DataApart E o
  | partition spec =>
    ∀ p, w.sourceView.partition spec = some p → (Item.ofPartition spec p).DataApart E o

end ReplicationTask

/-! ### An example -/

namespace Task.Sample

/-- A keyed catalog, a relational one, and one tree for each location. -/
def partners : Partners where
  source := Catalog.keyed
  destination := Catalog.relational
  carrier := Transfer.flat

/-- Trees may be copied, or staged at a third place. -/
def setup : Setup where
  source := { name := .text "here", root := .text "hdfs://here" }
  destination := { name := .text "there", root := .text "s3://there" }
  allowCopy := true
  stagingRoot := .text "s3://staged"

def spec : Spec := { database := "shop", table := "orders", partition := some "day=1" }

def table : TableRecord where
  database := "shop"
  name := "orders"
  partitionKeys := [{ name := "day", type := "int" }]

def partition : PartitionRecord where
  database := "shop"
  table := "orders"
  name := "day=1"
  values := ["1"]
  body := { location := some "hdfs://here/orders/1" }

def catalog : Catalog.Keyed where
  databases := [("shop", { name := "shop" })]
  tables := [(spec.tableSpec, table)]
  partitions := [(spec, partition)]
  lastId := 2

theorem named_catalog : catalog.view.Named :=
  Catalog.Keyed.named_of_tables (List.forall_mem_singleton.2 rfl)

/-- The source has one partition with its data, the destination has nothing. -/
def world : partners.World where
  source := ⟨catalog, named_catalog⟩
  destination := ⟨{}, Catalog.Relational.sound_empty⟩
  files a := if a = "hdfs://here/orders/1" then some [(["part"], 3)] else none

def task : ReplicationTask := .partition spec

/-- A run of the task at a time. -/
def run (now : Int) (w : partners.World) : Except Failure Outcome × partners.Moment :=
  partners.run (task.program setup) (fun _ => now) w

theorem isProper : setup.IsProper :=
  ⟨⟨"here", rfl⟩, ⟨{}, rfl, fun _ h => nomatch h⟩, ⟨.logging, rfl⟩⟩

theorem isIdentified : task.IsIdentified world := by
  intro p h
  cases h
  rfl

theorem dataApart : task.DataApart setup world := by
  have hrebased : setup.source.rebase setup.destination (.text "hdfs://here/orders/1")
      = .ok (some "s3://there/orders/1") := rfl
  have hpath : stagedPath setup.dataOptions.stagingRoot (.text "hdfs://here/orders/1")
      = .ok "s3://staged/orders/1" := rfl
  rintro p h - b hb s d hs hd -
  obtain rfl : partition = p := Option.some.inj h
  obtain rfl : "hdfs://here/orders/1" = s := Option.some.inj hs
  obtain rfl := Except.ok.inj (hrebased.symm.trans hb)
  obtain rfl := Option.some.inj hd
  refine ⟨(by decide : "hdfs://here/orders/1" ≠ "s3://there/orders/1"), fun staged hstaged => ?_⟩
  obtain rfl := Except.ok.inj (hpath.symm.trans hstaged)
  exact ⟨(by decide : "s3://staged/orders/1" ≠ "hdfs://here/orders/1"),
    (by decide : "s3://staged/orders/1" ≠ "s3://there/orders/1")⟩

/-- The data of the table belongs to its partitions. -/
theorem dataApart_table : (ReplicationTask.table spec.tableSpec .null).DataApart setup world := by
  rintro t h howns
  obtain rfl : table = t := Option.some.inj h
  cases howns

end Task.Sample

/-! ### Consistency -/

/-- From one world to another, the destination came to hold what the builder makes of an item, as
far as records are compared, and its data is in place. -/
def Task.Item.Consistent {ρ : Type} [Catalogued ρ] {E : Partners} (o : Setup) (i : Item ρ)
    (w w' : E.World) : Prop :=
  ∃ b x stored, o.builder = some b ∧
    b.build o.source o.destination i.record (i.existing w) = .ok x ∧
    i.existing w' = some stored ∧ comparable stored = comparable x ∧
    (i.ownsData = true → InPlace E.carrier w'.files (Maintained.body i.record).location
      (Maintained.body stored).location)

/-- The destination has the table of a spec, with the schema that it has at the source. -/
def Task.HasTable {E : Partners} (spec : Spec) (w : E.World) : Prop :=
  ∃ t t', w.sourceView.table spec.tableSpec = some t ∧ w.view.table spec.tableSpec = some t' ∧
    schemasMatch t t' = true

namespace ReplicationTask

variable {E : Partners}

/-- What a task is to achieve. -/
def Consistent (o : Setup) (w w' : E.World) : ReplicationTask → Prop
  | table spec _ => ∃ t, w.sourceView.table spec.tableSpec = some t ∧
    (Item.ofTable spec t).Consistent o w w'
  | partition spec => HasTable spec w' ∧ ∃ p, w.sourceView.partition spec = some p ∧
    (Item.ofPartition spec p).Consistent o w w'

end ReplicationTask

section

variable {ρ : Type} [Catalogued ρ] {E : Partners} {o : Setup} {i : Item ρ}
  {w w' : E.World}

theorem Task.Item.Consistent.congr {w₁ : E.World} (he : i.existing w₁ = i.existing w)
    (h : i.Consistent o w₁ w') : i.Consistent o w w' := by
  obtain ⟨b, x, stored, hb, hbuild, h⟩ := h
  exact ⟨b, x, stored, hb, he ▸ hbuild, h⟩

variable [DecidableEq ρ]

/-- An update that completes makes consistent. -/
theorem Task.Item.consistent_of_completes (hi : i.IsIdentified) (ha : i.DataApart E o)
    (h : i.Completes o w w'.files w'.view) : i.Consistent o w w' := by
  obtain ⟨x, n, hx, -, hc, -, hv⟩ := h
  obtain ⟨stored, hstored, hcomparable⟩ := hv.find hi hx
  have hsettled := settled_of_carried ha hx hc
  obtain ⟨b, hb, hbuild⟩ := hx
  refine ⟨b, x, stored, hb, hbuild, hstored, hcomparable, fun howns => ?_⟩
  rw [location_eq_of_comparable_eq hcomparable]
  exact (hsettled howns).inPlace

end

namespace ReplicationTask

variable {E : Partners} {o : Setup} {w w' : E.World}

/-- A partition task that completes makes consistent. -/
theorem consistent_of_cascade_completes {c : Cascade} (hfound : c.Found w)
    (hs : w'.source = w.source) (hi : (partition c.spec).IsIdentified w)
    (ha : (partition c.spec).DataApart o w) (h : c.Completes o w w'.files w'.view) :
    (partition c.spec).Consistent o w w' := by
  obtain ⟨w₁, hb, hc⟩ := h
  have hitem : c.partitionItem.Consistent o w₁ w' :=
    Item.consistent_of_completes (hi _ hfound.partition) (ha _ hfound.partition) hc
  refine ⟨?_, c.partition, hfound.partition, hitem.congr (congrFun hb.partition c.spec)⟩
  -- the table was there before the partition was updated, and is as it was
  obtain ⟨t', ht', hmatch⟩ := cascadeReason?_eq_none_iff.1 (hb.reason?_eq_none hfound)
  obtain ⟨x, n, -, -, -, -, hv⟩ := hc
  have hsource : w'.sourceView = w.sourceView := congrArg E.source.view hs
  refine ⟨c.table, t', ?_, ?_, hmatch⟩
  · rw [hsource]
    exact hfound.table
  · rw [table_of_published hv]
    exact ht'

/-- **Success means consistency**: if a task succeeds, the destination holds, under the spec, what
the builder makes of the record of the source and the record that was there, as far as records are
compared; its data is in place; and a partition has its table, with the schema of the source. -/
theorem successful_consistent (E : Partners) (o : Setup) (t : ReplicationTask) (clock : Nat → Int)
    (w : E.World) {out : Outcome} (hi : t.IsIdentified w) (ha : t.DataApart o w)
    (hrun : (E.run (t.program o) clock w).1 = .ok out) (hout : out.isSuccessful = true) :
    t.Consistent o w (E.run (t.program o) clock w).2.world := by
  have hend := run_ended E o t clock w
  have hsource := hend.underway.source
  have hcompletes := hend.completes out hrun hout
  generalize (E.run (t.program o) clock w).2.world = w' at hsource hcompletes ⊢
  cases hcompletes with
  | table ht hc =>
    exact ⟨_, ht, Item.consistent_of_completes (isIdentified_ofTable ht) (ha _ ht) hc⟩
  | partition hfound hc => exact consistent_of_cascade_completes hfound hsource hi ha hc

theorem successful_consistent_sample :
    (Sample.run 7 Sample.world).1 = .ok { status := .successful, bytes := 3 } ∧
      Sample.task.Consistent Sample.setup Sample.world (Sample.run 7 Sample.world).2.world :=
  ⟨rfl, successful_consistent Sample.partners Sample.setup Sample.task (fun _ => 7) Sample.world
    Sample.isIdentified Sample.dataApart rfl rfl⟩

end ReplicationTask

end CatalogReplication
