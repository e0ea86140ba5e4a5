import CatalogReplication.Proofs.Location.Rebase
import CatalogReplication.Proofs.Task.Consistency

/-!
# Partitions of one table

Tasks for partitions of one table are to run at one time. A `Race` is what they start from: the
source has the table and the partitions, whose data lies below the root of the source, each apart
from the others and all apart from where it is to go; nothing is said of what the destination has.

What each task wants to write is settled at the start (`Race.Plan`, `Race.exists_plan`), and the
data of the partitions goes to places that are apart (`Race.target_apart`).
-/

namespace CatalogReplication

/-! ### Carriers to rely on -/

namespace Transfer.Carrier

/-- Copying a tree that is there to a place apart from it succeeds. -/
def IsDependable (K : Carrier) : Prop :=
  ∀ a b tags s, K.Apart a b → (K.tree a s).isSome = true →
    ∃ n s', 0 ≤ n ∧ K.serve (.copy a b tags) s = (.ok n, s')

/-- What lies apart below one root lies apart when it is moved below another. -/
def Rebases (K : Carrier) (root root' : List Char) : Prop :=
  ∀ x y, K.Apart (String.ofList (root ++ x)) (String.ofList (root ++ y)) →
    K.Apart (String.ofList (root' ++ x)) (String.ofList (root' ++ y))

end Transfer.Carrier

theorem Transfer.isDependable_flat : Transfer.flat.IsDependable := by
  intro a b tags s _ ha
  obtain ⟨files, hfiles⟩ := Option.isSome_iff_exists.1 ha
  have htree : s a = some files := hfiles
  refine ⟨(files.foldl (fun n f => n + f.2) 0 : Nat), Function.update s b (some files),
    Int.natCast_nonneg _, ?_⟩
  show Transfer.serveShelf (.copy a b tags) s = _
  simp only [Transfer.serveShelf, htree]
  rfl

theorem Transfer.rebases_flat (root root' : List Char) : Transfer.flat.Rebases root root' := by
  intro x y h hxy
  have happend : root' ++ x = root' ++ y := String.ofList_injective hxy
  exact h (by rw [List.append_cancel_left happend])

namespace Task

/-! ### What tasks start from -/

/-- Partitions of one table, a world, and how they are to be replicated from there. -/
structure Lineup (E : Partners) (ι : Type) where
  setup : Setup
  builder : Builder
  sourceRoot : String
  destinationRoot : String
  start : E.World
  table : TableRecord
  partition : ι → PartitionRecord
  /-- Where the data of a partition lies. -/
  location : ι → String
  /-- Where that is below the root. -/
  place : ι → List Char

namespace Lineup

variable {E : Partners} {ι : Type} (r : Lineup E ι) (i : ι)

/-- The spec of a partition. -/
def spec : Spec := (r.partition i).spec

/-- The task for a partition. -/
def task : ReplicationTask := .partition (r.spec i)

/-- Where the data of a partition is to go. -/
def target : String := String.ofList (Location.trimRoot r.destinationRoot ++ r.place i)

/-- The table as an item. -/
def tableItem : Item TableRecord := .ofTable r.table.spec r.table

/-- A partition as an item. -/
def item : Item PartitionRecord := .ofPartition (r.spec i) (r.partition i)

end Lineup

/-- Tasks for partitions of one table that may run at one time. -/
structure Race (E : Partners) (ι : Type) extends Lineup E ι where
  builds : setup.builder = some builder
  textual : builder.IsTextual
  logs : setup.policy = some .logging
  copies : setup.allowCopy = true
  unstaged : setup.stagingRoot.isNull = true
  source_root : setup.source.root = .text sourceRoot
  destination_root : setup.destination.root = .text destinationRoot
  /-- The source has the table and the partitions, under their own specs. -/
  table_found : start.sourceView.table table.spec = some table
  partitioned : table.isPartitioned = true
  partition_found : ∀ i, start.sourceView.partition (toLineup.spec i) = some (partition i)
  partition_table : ∀ i, (toLineup.spec i).tableSpec = table.spec
  distinct : Function.Injective toLineup.spec
  /-- The database is under its own name, if there is one. -/
  database_named : ∀ d, start.sourceView.database table.database = some d → d.name = table.database
  /-- If the table or the database has a location it can be rebased, as all below the root can. -/
  table_rebases : ∃ l, setup.source.rebase setup.destination (.ofText? table.body.location) = .ok l
  database_rebases : ∀ d, start.sourceView.database table.database = some d →
    ∃ l, setup.source.rebase setup.destination (.ofText? d.location) = .ok l
  /-- The data of the partitions is there, below the root, and each apart from the others. -/
  located : ∀ i, (partition i).body.location = some (location i)
  below : ∀ i, Location.below? (Location.trimRoot sourceRoot) (location i).toList = some (place i)
  present : ∀ i, (E.carrier.tree (location i) start.files).isSome = true
  sources_apart : ∀ i j, i ≠ j → E.carrier.Apart (location i) (location j)
  targets_apart : ∀ i j, E.carrier.Apart (location i) (toLineup.target j)
  dependable : E.carrier.IsDependable
  rebases : E.carrier.Rebases (Location.trimRoot sourceRoot) (Location.trimRoot destinationRoot)

namespace Race

variable {E : Partners} {ι : Type} (r : Race E ι)

theorem location_eq (i : ι) :
    r.location i = String.ofList (Location.trimRoot r.sourceRoot ++ r.place i) := by
  rw [← (Location.below?_eq_some_iff.1 (r.below i)).1, String.ofList_toList]

/-- **The data of the partitions goes to places that are apart.** -/
theorem target_apart {i j : ι} (h : i ≠ j) : E.carrier.Apart (r.target i) (r.target j) := by
  have hsources := r.sources_apart i j h
  rw [r.location_eq, r.location_eq] at hsources
  exact r.rebases _ _ hsources

theorem rebase_location (i : ι) :
    r.setup.source.rebase r.setup.destination (.text (r.location i)) = .ok (some (r.target i)) :=
  Cluster.rebase_text_of_ok r.source_root r.destination_root
    (Location.rebase_of_below (r.below i))

/-! ### What the tasks are to write -/

/-- The records that the destination should hold, as the builder makes them at the start. -/
structure Plan (r : Race E ι) where
  table : TableRecord
  partition : ι → PartitionRecord
  database : DatabaseRecord
  wants_table : r.tableItem.Wants r.setup r.start table
  wants_partition : ∀ i, (r.item i).Wants r.setup r.start (partition i)
  houses : Builder.buildDatabase r.setup.source r.setup.destination
    (r.start.sourceView.database r.table.database) r.table.database = .ok database

/-- The builder makes a record if it can make out the location. -/
theorem exists_wants {ρ : Type} [Catalogued ρ] {i : Item ρ}
    (h : ∃ l, r.setup.source.rebase r.setup.destination
      (.ofText? (Maintained.body i.record).location) = .ok l) (w : E.World) :
    ∃ x, i.Wants r.setup w x := by
  obtain ⟨l, hl⟩ := h
  obtain ⟨q, hq⟩ := Builder.parameters_ok r.textual r.setup.source
    (Maintained.body i.record).parameters ((i.existing w).map Maintained.body)
  exact ⟨_, r.builder, r.builds, Builder.build_eq_ok_iff.2 ⟨q, l, hq, hl, rfl⟩⟩

/-- The database can be made. -/
theorem exists_houses : ∃ d, Builder.buildDatabase r.setup.source r.setup.destination
    (r.start.sourceView.database r.table.database) r.table.database = .ok d := by
  cases hd : r.start.sourceView.database r.table.database with
  | none => exact ⟨_, rfl⟩
  | some d =>
    obtain ⟨l, hl⟩ := r.database_rebases d hd
    simp [Builder.buildDatabase, hl, bind, Except.bind, pure, Except.pure]

/-- **What the tasks are to write is settled at the start.** -/
theorem exists_plan : Nonempty r.Plan := by
  obtain ⟨t, ht⟩ := r.exists_wants (i := r.tableItem) r.table_rebases r.start
  have hpartition : ∀ i, ∃ x, (r.item i).Wants r.setup r.start x := fun i => by
    refine r.exists_wants ⟨some (r.target i), ?_⟩ r.start
    show r.setup.source.rebase r.setup.destination (.ofText? (r.partition i).body.location) = _
    rw [r.located]
    exact r.rebase_location i
  obtain ⟨x, hx⟩ := Classical.axiomOfChoice hpartition
  obtain ⟨d, hd⟩ := r.exists_houses
  exact ⟨{ table := t, partition := x, database := d, wants_table := ht, wants_partition := hx
           houses := hd }⟩

namespace Plan

variable {r} (p : r.Plan) (i : ι)

theorem spec_table : p.table.spec = r.table.spec := Item.spec_of_wants p.wants_table

theorem spec_partition : (p.partition i).spec = r.spec i := Item.spec_of_wants (p.wants_partition i)

theorem location_partition : (p.partition i).body.location = some (r.target i) := by
  have hrebase := Item.rebase_of_wants (p.wants_partition i)
  have hlocation : (Maintained.body (r.item i).record).location = some (r.location i) := r.located i
  rw [hlocation] at hrebase
  exact (Except.ok.inj ((r.rebase_location i).symm.trans hrebase)).symm

theorem schema_table : p.table.schema = r.table.schema := by
  obtain ⟨b, -, hbuild⟩ := p.wants_table
  obtain ⟨parameters, location, -, -, hx⟩ := Builder.build_eq_ok_iff.1 hbuild
  rw [← hx]
  rfl

theorem name_database : p.database.name = r.table.database :=
  Builder.name_of_buildDatabase r.database_named p.houses

end Plan

end Race

end Task

end CatalogReplication
