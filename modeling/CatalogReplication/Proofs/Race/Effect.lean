import CatalogReplication.Proofs.Race.Setting

/-!
# What tasks for partitions of one table do to each other

A call of such a task does one of five things to the world (`Race.Plan.Effect`): nothing, or it
makes the database, writes the table, writes the partition, or copies the data. So whatever happens,
a world is in the course of the race (`Race.Plan.Course`), and to one of the tasks the others do no
harm (`Race.Plan.Kept`): what it found to be there stays, and its own partition and place are left
alone.

* `Race.Plan.Effect.course`, `Race.Plan.Effect.kept`: that much for one call.
* `Race.Plan.alike_of_done`: two worlds in which all tasks are done are alike.
-/

namespace CatalogReplication.Task

open Catalog (View)

/-- A record was left as it was unless it was to be written, and else was written, with some
stamp. -/
def Settles {ρ : Type} [Maintained ρ] (writes : Prop) (before : Option ρ) (x : ρ)
    (after : Option ρ) : Prop :=
  (¬ writes ∧ after = before) ∨
    (writes ∧ ∃ time id created, after = some (Catalog.stamp time id created x))

theorem Settles.unstamped_eq {ρ : Type} [Maintained ρ] {writes : Prop}
    {before after after' : Option ρ} {x : ρ} (h : Settles writes before x after)
    (h' : Settles writes before x after') :
    after.map unstamped = after'.map unstamped := by
  rcases h with ⟨hn, rfl⟩ | ⟨hw, time, id, created, rfl⟩
  · rcases h' with ⟨-, rfl⟩ | ⟨hw, -⟩
    · rfl
    · exact absurd hw hn
  · rcases h' with ⟨hn, -⟩ | ⟨-, time', id', created', rfl⟩
    · exact absurd hw hn
    · rw [Option.map_some, Option.map_some, unstamped_stamp, unstamped_stamp]

theorem database_ensureDatabase_congr {v v' : View} (h : v.database = v'.database)
    (d : DatabaseRecord) : (v.ensureDatabase d).database = (v'.ensureDatabase d).database := by
  unfold View.ensureDatabase View.putDatabase
  rw [h]
  split
  · exact h
  · rfl

theorem database_ensureDatabase_of_isSome {v : View} {d : DatabaseRecord}
    (h : (v.database d.name).isSome = true) : v.ensureDatabase d = v := by
  unfold View.ensureDatabase
  rw [if_pos h]

namespace Race

variable {E : Partners} {ι : Type}

section

variable (r : Race E ι) (i : ι) (w : E.World)

/-- The destination has the table with the schema that it has at the source. -/
def HasTable : Prop := cascadeReason? r.table (w.view.table r.table.spec) = none

/-- The destination has the database. -/
def HasDatabase : Prop := (w.view.database r.table.database).isSome = true

/-- A task makes the database if it finds the table or its partition missing. -/
def NeedsDatabase : Prop :=
  r.start.view.table r.table.spec = none ∨ r.start.view.partition (r.spec i) = none

/-- The data of a partition is in place at the start. -/
def IsInPlace : Prop := E.carrier.agrees (r.location i) (r.target i) r.start.files = true

/-- The tree that is to be in the place of a partition. -/
def Delivers (tree : Option E.carrier.Tree) : Prop :=
  (r.IsInPlace i ∧ tree = E.carrier.tree (r.target i) r.start.files) ∨
    (¬ r.IsInPlace i ∧ tree = E.carrier.tree (r.location i) r.start.files)

/-- Two worlds with the same source, the same content of the destination up to what catalogs keep
up, and the same trees, in the places of the partitions and in all that are apart from these. -/
structure Alike (w w' : E.World) : Prop where
  source : w.source = w'.source
  view : w.view.Similar w'.view
  targets : ∀ i, E.carrier.tree (r.target i) w.files = E.carrier.tree (r.target i) w'.files
  others : ∀ a, (∀ i, E.carrier.Apart a (r.target i)) →
    E.carrier.tree a w.files = E.carrier.tree a w'.files

end

namespace Plan

variable {r : Race E ι}

section

variable (p : r.Plan) (i : ι) (w : E.World)

/-- The partition is to be written. -/
def Writes : Prop := Action.decide (r.start.view.partition (r.spec i)) (p.partition i) ≠ .keep

/-- What a call of a task may do to the world. -/
inductive Effect : E.World → Prop where
  | nothing : Effect w
  | housed {w' : E.World} (hs : w'.source = w.source) (hf : w'.files = w.files)
      (hn : r.NeedsDatabase i) (hv : w'.view = w.view.ensureDatabase p.database) : Effect w'
  | tabled {w' : E.World} {time id : Int} {created : Option Int} (hs : w'.source = w.source)
      (hf : w'.files = w.files) (hc : ¬ r.HasTable r.start)
      (hd : r.start.view.table r.table.spec = none → r.HasDatabase w)
      (hv : w'.view = w.view.putTable r.table.spec (Catalog.stamp time id created p.table)) :
      Effect w'
  | partitioned {w' : E.World} {time id : Int} {created : Option Int} (hs : w'.source = w.source)
      (hf : w'.files = w.files)
      (hv : w'.view = w.view.putPartition (r.spec i)
        (Catalog.stamp time id created (p.partition i))) : Effect w'
  | copied {w' : E.World} (hs : w'.source = w.source) (hd : w'.destination = w.destination)
      (hf : ∀ a, E.carrier.Apart a (r.target i) →
        E.carrier.tree a w'.files = E.carrier.tree a w.files) : Effect w'

/-- A world in the course of the race. -/
structure Course : Prop where
  source : w.source = r.start.source
  database : w.view.database = r.start.view.database ∨
    (∃ i, r.NeedsDatabase i) ∧
      w.view.database = (r.start.view.ensureDatabase p.database).database
  housed : r.start.view.table r.table.spec = none →
    (w.view.table r.table.spec).isSome = true → r.HasDatabase w
  table : w.view.table r.table.spec = r.start.view.table r.table.spec ∨
    (¬ r.HasTable r.start ∧
      ∃ time id created, w.view.table r.table.spec = some (Catalog.stamp time id created p.table))
  tables : ∀ k, k ≠ r.table.spec → w.view.table k = r.start.view.table k
  partitions : ∀ k, (∀ i, k ≠ r.spec i) → w.view.partition k = r.start.view.partition k
  files : ∀ a, (∀ i, E.carrier.Apart a (r.target i)) →
    E.carrier.tree a w.files = E.carrier.tree a r.start.files

/-- What the others leave to a task. -/
structure Kept (w w' : E.World) : Prop where
  course : p.Course w → p.Course w'
  hasTable : r.HasTable w → r.HasTable w'
  table : (w.view.table r.table.spec).isSome = true → (w'.view.table r.table.spec).isSome = true
  hasDatabase : r.HasDatabase w → r.HasDatabase w'
  partition : w'.view.partition (r.spec i) = w.view.partition (r.spec i)
  tree : E.carrier.tree (r.target i) w'.files = E.carrier.tree (r.target i) w.files

/-- A world in which a task has not begun yet with what is its own. -/
structure Fresh : Prop where
  course : p.Course w
  partition : w.view.partition (r.spec i) = r.start.view.partition (r.spec i)
  tree : E.carrier.tree (r.target i) w.files = E.carrier.tree (r.target i) r.start.files

/-- A world in which nothing is left to do for a task. -/
structure Done : Prop where
  course : p.Course w
  hasTable : r.HasTable w
  hasDatabase : r.NeedsDatabase i → r.HasDatabase w
  partition : Settles (p.Writes i) (r.start.view.partition (r.spec i)) (p.partition i)
    (w.view.partition (r.spec i))
  tree : r.Delivers i (E.carrier.tree (r.target i) w.files)

end

variable {p : r.Plan} {i j : ι} {w w' w'' : E.World}

/-! ### One call -/

theorem view_eq_of_destination_eq (h : w'.destination = w.destination) : w'.view = w.view :=
  congrArg E.destination.view h

theorem hasDatabase_of_ensureDatabase (hv : w'.view = w.view.ensureDatabase p.database) :
    r.HasDatabase w' := by
  have hdatabase := View.isSome_database_ensureDatabase p.database w.view
  rwa [p.name_database, ← hv] at hdatabase

/-- A table that was written as wanted has the schema of the source. -/
theorem hasTable_of_stamp {time id : Int} {created : Option Int}
    (h : w.view.table r.table.spec = some (Catalog.stamp time id created p.table)) :
    r.HasTable w :=
  cascadeReason?_eq_none_iff.2 ⟨_, h, decide_eq_true p.schema_table.symm⟩

theorem table_of_putTable {t : TableRecord} (hv : w'.view = w.view.putTable r.table.spec t) :
    w'.view.table r.table.spec = some t := by
  rw [hv]
  exact Function.update_self ..

theorem Course.start : p.Course r.start where
  source := rfl
  database := .inl rfl
  housed h h' := by rw [h] at h'; cases h'
  table := .inl rfl
  tables _ _ := rfl
  partitions _ _ := rfl
  files _ _ := rfl

theorem Course.sourceView (h : p.Course w) : w.sourceView = r.start.sourceView :=
  congrArg E.source.view h.source

/-- Making the database leaves a world in the course of the race. -/
theorem Course.of_housed (h : p.Course w) (hs : w'.source = w.source) (hf : w'.files = w.files)
    (hn : r.NeedsDatabase i) (hv : w'.view = w.view.ensureDatabase p.database) : p.Course w' where
  source := hs.trans h.source
  database := by
    refine .inr ⟨⟨i, hn⟩, ?_⟩
    rw [hv]
    rcases h.database with hd | ⟨-, hd⟩
    · exact database_ensureDatabase_congr hd _
    · rw [database_ensureDatabase_congr hd, View.ensureDatabase_ensureDatabase]
  housed _ _ := hasDatabase_of_ensureDatabase hv
  table := by rw [hv, View.table_ensureDatabase]; exact h.table
  tables := by rw [hv, View.table_ensureDatabase]; exact h.tables
  partitions := by rw [hv, View.partition_ensureDatabase]; exact h.partitions
  files := by rw [hf]; exact h.files

/-- Writing the table leaves a world in the course of the race. -/
theorem Course.of_tabled {time id : Int} {created : Option Int} (h : p.Course w)
    (hs : w'.source = w.source) (hf : w'.files = w.files) (hc : ¬ r.HasTable r.start)
    (hd : r.start.view.table r.table.spec = none → r.HasDatabase w)
    (hv : w'.view = w.view.putTable r.table.spec (Catalog.stamp time id created p.table)) :
    p.Course w' where
  source := hs.trans h.source
  database := by rw [hv]; exact h.database
  housed hnone _ := by rw [HasDatabase, hv]; exact hd hnone
  table := .inr ⟨hc, time, id, created, table_of_putTable hv⟩
  tables k hk := by rw [hv]; exact (Function.update_of_ne hk ..).trans (h.tables k hk)
  partitions := by rw [hv]; exact h.partitions
  files := by rw [hf]; exact h.files

/-- What is not about the database and the table may change as far as it is the tasks' own. -/
theorem Course.congr (h : p.Course w) (hs : w'.source = w.source)
    (hd : w'.view.database = w.view.database) (ht : w'.view.table = w.view.table)
    (hp : ∀ k, (∀ i, k ≠ r.spec i) → w'.view.partition k = w.view.partition k)
    (hf : ∀ a, (∀ i, E.carrier.Apart a (r.target i)) →
      E.carrier.tree a w'.files = E.carrier.tree a w.files) : p.Course w' where
  source := hs.trans h.source
  database := by rw [hd]; exact h.database
  housed := by rw [HasDatabase, hd, ht]; exact h.housed
  table := by rw [ht]; exact h.table
  tables := by rw [ht]; exact h.tables
  partitions k hk := (hp k hk).trans (h.partitions k hk)
  files a ha := (hf a ha).trans (h.files a ha)

/-- **What a call does leaves a world in the course of the race.** -/
theorem Effect.course (he : p.Effect i w w') (h : p.Course w) : p.Course w' := by
  cases he with
  | nothing => exact h
  | housed hs hf hn hv => exact h.of_housed hs hf hn hv
  | tabled hs hf hc hd hv => exact h.of_tabled hs hf hc hd hv
  | partitioned hs hf hv =>
    refine h.congr hs (by rw [hv]; rfl) (by rw [hv]; rfl) (fun k hk => ?_) fun a _ => by rw [hf]
    rw [hv]
    exact Function.update_of_ne (hk i) ..
  | copied hs hd hf =>
    have hview := view_eq_of_destination_eq hd
    exact h.congr hs (by rw [hview]) (by rw [hview]) (fun k _ => by rw [hview]) fun a ha =>
      hf a (ha i)

/-- Making the database takes nothing from any task. -/
theorem Kept.of_housed (hs : w'.source = w.source) (hf : w'.files = w.files)
    (hn : r.NeedsDatabase i) (hv : w'.view = w.view.ensureDatabase p.database) :
    p.Kept j w w' where
  course h := h.of_housed hs hf hn hv
  hasTable h := by rwa [HasTable, hv, View.table_ensureDatabase]
  table h := by rwa [hv, View.table_ensureDatabase]
  hasDatabase _ := hasDatabase_of_ensureDatabase hv
  partition := by rw [hv, View.partition_ensureDatabase]
  tree := by rw [hf]

/-- Nor does writing the table. -/
theorem Kept.of_tabled {time id : Int} {created : Option Int} (hs : w'.source = w.source)
    (hf : w'.files = w.files) (hc : ¬ r.HasTable r.start)
    (hd : r.start.view.table r.table.spec = none → r.HasDatabase w)
    (hv : w'.view = w.view.putTable r.table.spec (Catalog.stamp time id created p.table)) :
    p.Kept j w w' where
  course h := h.of_tabled hs hf hc hd hv
  hasTable _ := hasTable_of_stamp (table_of_putTable hv)
  table _ := by rw [table_of_putTable hv]; rfl
  hasDatabase h := by rwa [HasDatabase, hv]
  partition := by rw [hv]; rfl
  tree := by rw [hf]

/-- **What a call does leaves the other tasks their own.** -/
theorem Effect.kept (he : p.Effect i w w') (hij : j ≠ i) : p.Kept j w w' := by
  have hcourse := he.course
  cases he with
  | nothing => exact ⟨id, id, id, id, rfl, rfl⟩
  | housed hs hf hn hv => exact .of_housed hs hf hn hv
  | tabled hs hf hc hd hv => exact .of_tabled hs hf hc hd hv
  | partitioned hs hf hv =>
    have hne : r.spec j ≠ r.spec i := fun h => hij (r.distinct h)
    refine ⟨hcourse, fun h => ?_, fun h => ?_, fun h => ?_, ?_, by rw [hf]⟩
    · rwa [HasTable, hv]
    · rwa [hv]
    · rwa [HasDatabase, hv]
    · rw [hv]
      exact Function.update_of_ne hne ..
  | copied hs hd hf =>
    have hview := view_eq_of_destination_eq hd
    refine ⟨hcourse, fun h => ?_, fun h => ?_, fun h => ?_, by rw [hview],
      hf _ (r.target_apart hij)⟩
    · rwa [HasTable, hview]
    · rwa [hview]
    · rwa [HasDatabase, hview]

/-! ### What others leave -/

theorem Kept.refl : p.Kept i w w := ⟨id, id, id, id, rfl, rfl⟩

theorem Kept.trans (h : p.Kept i w w') (h' : p.Kept i w' w'') : p.Kept i w w'' :=
  ⟨h'.course ∘ h.course, h'.hasTable ∘ h.hasTable, h'.table ∘ h.table,
    h'.hasDatabase ∘ h.hasDatabase, h'.partition.trans h.partition, h'.tree.trans h.tree⟩

theorem Fresh.start : p.Fresh i r.start := ⟨.start, rfl, rfl⟩

theorem Kept.fresh (h : p.Kept i w w') (hw : p.Fresh i w) : p.Fresh i w' :=
  ⟨h.course hw.course, h.partition.trans hw.partition, h.tree.trans hw.tree⟩

theorem Kept.done (h : p.Kept i w w') (hw : p.Done i w) : p.Done i w' where
  course := h.course hw.course
  hasTable := h.hasTable hw.hasTable
  hasDatabase hn := h.hasDatabase (hw.hasDatabase hn)
  partition := by rw [h.partition]; exact hw.partition
  tree := by rw [h.tree]; exact hw.tree

/-! ### When all is done -/

/-- Where the table is there with its schema, it was written if it had to be. -/
theorem Course.settles_table (h : p.Course w) (ht : r.HasTable w) :
    Settles (¬ r.HasTable r.start) (r.start.view.table r.table.spec) p.table
      (w.view.table r.table.spec) := by
  rcases h.table with htable | hwritten
  · refine .inl ⟨fun hn => hn ?_, htable⟩
    rwa [HasTable, htable] at ht
  · exact .inr hwritten

/-- Where the database is there if it was needed, it was made if it had to be. -/
theorem Course.database_eq (h : p.Course w)
    (hd : (∃ i, r.NeedsDatabase i) → r.HasDatabase w) (h' : p.Course w')
    (hd' : (∃ i, r.NeedsDatabase i) → r.HasDatabase w') : w.view.database = w'.view.database := by
  have hensured : ∀ {w : E.World}, p.Course w → r.HasDatabase w →
      w.view.database = (r.start.view.ensureDatabase p.database).database := fun {w} h hd => by
    rcases h.database with hstart | ⟨-, hensured⟩
    · rw [HasDatabase, hstart, ← p.name_database] at hd
      rw [hstart, database_ensureDatabase_of_isSome hd]
    · exact hensured
  by_cases hn : ∃ i, r.NeedsDatabase i
  · rw [hensured h (hd hn), hensured h' (hd' hn)]
  · rw [h.database.resolve_right fun hm => hn hm.1, h'.database.resolve_right fun hm => hn hm.1]

theorem delivers_unique {tree tree' : Option E.carrier.Tree} (h : r.Delivers i tree)
    (h' : r.Delivers i tree') : tree = tree' := by
  rcases h with ⟨hi, rfl⟩ | ⟨hi, rfl⟩
  · exact (h'.resolve_right fun hn => hn.1 hi).2.symm
  · exact (h'.resolve_left fun hn => hi hn.1).2.symm

/-- **Two worlds in which all tasks are done are alike.** -/
theorem alike_of_done [Nonempty ι] (h : ∀ i, p.Done i w) (h' : ∀ i, p.Done i w') :
    r.Alike w w' := by
  obtain ⟨i₀⟩ := ‹Nonempty ι›
  have hw := (h i₀).course
  have hw' := (h' i₀).course
  refine ⟨hw.source.trans hw'.source.symm, ⟨?_, fun k => ?_, fun k => ?_⟩,
    fun i => delivers_unique (h i).tree (h' i).tree,
    fun a ha => (hw.files a ha).trans (hw'.files a ha).symm⟩
  · exact hw.database_eq (fun ⟨i, hi⟩ => (h i).hasDatabase hi) hw'
      fun ⟨i, hi⟩ => (h' i).hasDatabase hi
  · by_cases hk : k = r.table.spec
    · rw [hk]
      exact (hw.settles_table (h i₀).hasTable).unstamped_eq
        (hw'.settles_table (h' i₀).hasTable)
    · rw [hw.tables k hk, hw'.tables k hk]
  · by_cases hk : ∃ i, k = r.spec i
    · obtain ⟨i, rfl⟩ := hk
      exact (h i).partition.unstamped_eq (h' i).partition
    · have hne : ∀ i, k ≠ r.spec i := fun i hi => hk ⟨i, hi⟩
      rw [hw.partitions k hne, hw'.partitions k hne]

end Plan

end Race

end CatalogReplication.Task
