import CatalogReplication.Proofs.Catalog.View
import Mathlib.Data.List.Nodup

/-!
# Registers

A register lists what a catalog keeps: databases by their names, tables and partitions by their
specs, each with the number that its record shows. An accepted request enters at most one new thing
(`Register.enter`), and only if there is a place for it (`Register.Admits`): so a register stays
intact (`Register.Intact.enter`).
-/

namespace CatalogReplication.Catalog

/-- What a catalog keeps, in the order in which it came. -/
@[ext] structure Register where
  databases : List String := []
  tables : List (Spec × Option Int) := []
  partitions : List (Spec × Option Int) := []

/-- The number of a record. -/
def number {ρ : Type} [Maintained ρ] (r : ρ) : Option Int := (Maintained.body r).stamp.catalogId

theorem number_stamp {ρ : Type} [Maintained ρ] (now id : Int) (created : Option Int) (r : ρ) :
    number (stamp now id created r) = some id := by
  unfold number stamp
  rw [Maintained.body_withBody]
  rfl

/-- The partition that a request is to add. -/
def Request.newPartition? : Request → Option Spec
  | .addPartition p => some p.spec
  | _ => none

namespace Register

/-- The specs of the tables. -/
def tableSpecs (g : Register) : List Spec := g.tables.map Prod.fst

/-- The specs of the partitions. -/
def partitionSpecs (g : Register) : List Spec := g.partitions.map Prod.fst

/-- The numbers of all records. -/
def numbers (g : Register) : List (Option Int) := (g.tables ++ g.partitions).map Prod.snd

/-- Enters what an accepted request creates, under a number. -/
def enter (r : Request) (n : Int) (g : Register) : Register :=
  match r with
  | .createDatabaseIfAbsent d =>
    if d.name ∈ g.databases then g else { g with databases := g.databases ++ [d.name] }
  | .createTable t => { g with tables := g.tables ++ [(t.spec, some n)] }
  | .addPartition p => { g with partitions := g.partitions ++ [(p.spec, some n)] }
  | _ => g

/-- Whether there is a place for what a request creates, and its number is still free. -/
def Admits (r : Request) (n : Int) (g : Register) : Prop :=
  match r with
  | .createTable t =>
    t.database ∈ g.databases ∧ t.spec ∉ g.tableSpecs ∧ some n ∉ g.tables.map Prod.snd
  | .addPartition p =>
    p.spec.tableSpec ∈ g.tableSpecs ∧ p.spec ∉ g.partitionSpecs ∧
      some n ∉ g.partitions.map Prod.snd
  | _ => True

theorem enter_database_of_mem {d : DatabaseRecord} {g : Register} (h : d.name ∈ g.databases)
    (n : Int) : g.enter (.createDatabaseIfAbsent d) n = g := if_pos h

theorem enter_database_of_not_mem {d : DatabaseRecord} {g : Register} (h : d.name ∉ g.databases)
    (n : Int) :
    g.enter (.createDatabaseIfAbsent d) n = { g with databases := g.databases ++ [d.name] } :=
  if_neg h

/-- Only what is numbered adds a number, and it adds the one that it was given. -/
theorem numbers_enter (r : Request) (n : Int) (g : Register) :
    (g.enter r n).numbers.Perm (if r.isNumbered then some n :: g.numbers else g.numbers) := by
  cases r with
  | createTable t =>
    have htables : (g.enter (.createTable t) n).numbers =
        g.tables.map Prod.snd ++ some n :: g.partitions.map Prod.snd := by
      simp [enter, numbers]
    show List.Perm _ (some n :: g.numbers)
    rw [htables, numbers, List.map_append]
    exact List.perm_middle
  | addPartition p =>
    have hpartitions : (g.enter (.addPartition p) n).numbers = g.numbers ++ [some n] := by
      simp [enter, numbers]
    rw [hpartitions]
    exact List.perm_append_singleton _ _
  | createDatabaseIfAbsent d =>
    by_cases h : d.name ∈ g.databases
    · rw [enter_database_of_mem h]
      exact .refl _
    · rw [enter_database_of_not_mem h]
      exact .refl _
  | _ => exact .refl _

theorem partitionSpecs_enter (r : Request) (n : Int) (g : Register) :
    (g.enter r n).partitionSpecs = g.partitionSpecs ++ r.newPartition?.toList := by
  cases r with
  | addPartition p => exact List.map_append
  | createDatabaseIfAbsent d =>
    by_cases h : d.name ∈ g.databases
    · rw [enter_database_of_mem h]
      exact (List.append_nil _).symm
    · rw [enter_database_of_not_mem h]
      exact (List.append_nil _).symm
  | _ => exact (List.append_nil _).symm

/-- Whether a register lists what look-ups find, with the numbers of the records. -/
structure Lists (g : Register) (v : View) : Prop where
  databases : ∀ name, name ∈ g.databases ↔ (v.database name).isSome = true
  tableSpecs : ∀ k, k ∈ g.tableSpecs ↔ (v.table k).isSome = true
  partitionSpecs : ∀ k, k ∈ g.partitionSpecs ↔ (v.partition k).isSome = true
  tables : ∀ k t, v.table k = some t → (k, number t) ∈ g.tables
  partitions : ∀ k p, v.partition k = some p → (k, number p) ∈ g.partitions

/-! ### Intact registers -/

/-- Entries none of which shares its spec or its number with another. -/
structure Distinct (entries : List (Spec × Option Int)) : Prop where
  specs : (entries.map Prod.fst).Nodup
  numbers : (entries.map Prod.snd).Nodup

theorem Distinct.append {entries : List (Spec × Option Int)} {k : Spec} {n : Option Int}
    (h : Distinct entries) (hk : k ∉ entries.map Prod.fst) (hn : n ∉ entries.map Prod.snd) :
    Distinct (entries ++ [(k, n)]) := by
  constructor
  · rw [List.map_append, List.map_singleton]
    exact h.specs.append (List.nodup_singleton _) (List.disjoint_singleton.2 hk)
  · rw [List.map_append, List.map_singleton]
    exact h.numbers.append (List.nodup_singleton _) (List.disjoint_singleton.2 hn)

/-- A register in which nothing occurs twice and nothing is without what it belongs to. -/
structure Intact (g : Register) : Prop where
  databases : g.databases.Nodup
  tables : Distinct g.tables
  partitions : Distinct g.partitions
  /-- Every table is in a database. -/
  housed : ∀ k ∈ g.tableSpecs, k.database ∈ g.databases
  /-- Every partition is of a table. -/
  parented : ∀ k ∈ g.partitionSpecs, k.tableSpec ∈ g.tableSpecs

theorem intact_empty : Intact {} := by
  refine ⟨List.nodup_nil, ⟨List.nodup_nil, List.nodup_nil⟩, ⟨List.nodup_nil, List.nodup_nil⟩, ?_, ?_⟩
  · intro k hk
    cases hk
  · intro k hk
    cases hk

theorem Intact.enterDatabase {g : Register} {name : String} (h : g.Intact)
    (hname : name ∉ g.databases) : Intact { g with databases := g.databases ++ [name] } where
  databases := h.databases.append (List.nodup_singleton _) (List.disjoint_singleton.2 hname)
  tables := h.tables
  partitions := h.partitions
  housed k hk := List.mem_append_left _ (h.housed k hk)
  parented := h.parented

theorem Intact.enterTable {g : Register} {k : Spec} {n : Option Int} (h : g.Intact)
    (hhouse : k.database ∈ g.databases) (hnew : k ∉ g.tableSpecs)
    (hfree : n ∉ g.tables.map Prod.snd) : Intact { g with tables := g.tables ++ [(k, n)] } := by
  have hspecs : tableSpecs { g with tables := g.tables ++ [(k, n)] } = g.tableSpecs ++ [k] :=
    List.map_append
  refine ⟨h.databases, h.tables.append hnew hfree, h.partitions, ?_, ?_⟩
  · intro k' hk'
    rw [hspecs] at hk'
    rcases List.mem_append.1 hk' with hold | hlast
    · exact h.housed k' hold
    · obtain rfl := List.mem_singleton.1 hlast
      exact hhouse
  · intro k' hk'
    rw [hspecs]
    exact List.mem_append_left _ (h.parented k' hk')

theorem Intact.enterPartition {g : Register} {k : Spec} {n : Option Int} (h : g.Intact)
    (hparent : k.tableSpec ∈ g.tableSpecs) (hnew : k ∉ g.partitionSpecs)
    (hfree : n ∉ g.partitions.map Prod.snd) :
    Intact { g with partitions := g.partitions ++ [(k, n)] } := by
  have hspecs :
      partitionSpecs { g with partitions := g.partitions ++ [(k, n)] } = g.partitionSpecs ++ [k] :=
    List.map_append
  refine ⟨h.databases, h.tables, h.partitions.append hnew hfree, h.housed, ?_⟩
  intro k' hk'
  rw [hspecs] at hk'
  rcases List.mem_append.1 hk' with hold | hlast
  · exact h.parented k' hold
  · obtain rfl := List.mem_singleton.1 hlast
    exact hparent

/-- A register stays intact if what is entered has a place. -/
theorem Intact.enter {g : Register} {r : Request} {n : Int} (h : g.Intact) (hr : g.Admits r n) :
    (g.enter r n).Intact := by
  cases r with
  | createDatabaseIfAbsent d =>
    by_cases hd : d.name ∈ g.databases
    · rw [enter_database_of_mem hd]
      exact h
    · rw [enter_database_of_not_mem hd]
      exact h.enterDatabase hd
  | createTable t =>
    obtain ⟨hhouse, hnew, hfree⟩ := hr
    exact h.enterTable hhouse hnew hfree
  | addPartition p =>
    obtain ⟨hparent, hnew, hfree⟩ := hr
    exact h.enterPartition hparent hnew hfree
  | _ => exact h

end Register

end CatalogReplication.Catalog
