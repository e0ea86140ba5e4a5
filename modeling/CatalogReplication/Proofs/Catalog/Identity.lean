import CatalogReplication.Proofs.Catalog.Integrity

/-!
# What look-ups find

A look-up finds the record of what was asked for: a database of that name, a table of that spec
(`lookups_identify`). Altering a partition files whatever record it is given under the spec that it
is told, so a partition is sure to be its own only if it never was altered with the record of
another; one that was shows the other's record (`alteration_misfiles`).
-/

namespace CatalogReplication.Catalog

/-- Look-ups find records under their own names and specs, except for the partitions of some
specs. -/
structure View.Identified (misfiled : Spec → Prop) (v : View) : Prop where
  database : ∀ name d, v.database name = some d → d.name = name
  table : v.Named
  partition : ∀ k p, v.partition k = some p → ¬ misfiled k → p.spec = k

namespace View.Identified

variable {misfiled : Spec → Prop} {v v' : View}

theorem ensureDatabase (h : v.Identified misfiled) (d : DatabaseRecord) :
    (v.ensureDatabase d).Identified misfiled := by
  unfold View.ensureDatabase
  split
  · exact h
  · refine ⟨?_, h.table, h.partition⟩
    intro name d' hd'
    by_cases hname : name = d.name
    · subst hname
      have heq : d = d' := by simpa [View.putDatabase] using hd'
      rw [← heq]
    · have hold : v.database name = some d' := by
        simpa [View.putDatabase, Function.update_of_ne hname] using hd'
      exact h.database name d' hold

theorem putPartition (h : v.Identified misfiled) {k : Spec} {p : PartitionRecord}
    (hp : ¬ misfiled k → p.spec = k) : (v.putPartition k p).Identified misfiled := by
  refine ⟨h.database, h.table, ?_⟩
  intro k' p' hp' hfiled
  by_cases hk : k' = k
  · subst hk
    have heq : p = p' := by simpa [View.putPartition] using hp'
    rw [← heq]
    exact hp hfiled
  · have hold : v.partition k' = some p' := by
      simpa [View.putPartition, Function.update_of_ne hk] using hp'
    exact h.partition k' p' hold hfiled

/-- An accepted request misfiles nothing but the record of a partition that it alters. -/
theorem accepts {now : Int} {r : Request} {a : r.Answer} (h : v.Identified misfiled)
    (hr : ∀ k p, r = .alterPartition k p → ¬ misfiled k → p.spec = k)
    (ha : v.Accepts now r a v') : v'.Identified misfiled := by
  cases r with
  | createDatabaseIfAbsent d =>
    obtain ⟨-, rfl⟩ := ha
    exact h.ensureDatabase d
  | createTable t =>
    obtain ⟨id, rfl⟩ := ha
    exact ⟨h.database, h.table.putTable rfl, h.partition⟩
  | alterTable t =>
    obtain ⟨id, created, rfl⟩ := ha
    exact ⟨h.database, h.table.putTable rfl, h.partition⟩
  | addPartition p =>
    obtain ⟨id, rfl⟩ := ha
    exact h.putPartition fun _ => rfl
  | alterPartition k p =>
    obtain ⟨id, created, rfl⟩ := ha
    exact h.putPartition (hr k p rfl)
  | listPartitionNames k =>
    obtain rfl : v' = v := ha
    exact h
  | getDatabase name =>
    obtain ⟨-, rfl⟩ := ha
    exact h
  | getTable k =>
    obtain ⟨-, rfl⟩ := ha
    exact h
  | getPartition k =>
    obtain ⟨-, rfl⟩ := ha
    exact h

end View.Identified

namespace Kind

variable (K : Kind)

/-- Whether a history alters a partition with the record of another. -/
def Misfiles (history : List (K.Occasion × Request)) (k : Spec) : Prop :=
  ∃ x ∈ history, ∃ p, x.2 = .alterPartition k p ∧ p.spec ≠ k

/-- What look-ups find in a catalog after a history. -/
structure Identifies (history : List (K.Occasion × Request)) (s : K.State) : Prop where
  database : ∀ o name d, (K.serve o (.getDatabase name) s).1 = .ok (some d) → d.name = name
  table : ∀ o k t, (K.serve o (.getTable k) s).1 = .ok (some t) → t.spec = k.tableSpec
  partition : ∀ o k p, (K.serve o (.getPartition k) s).1 = .ok (some p) →
    ¬ K.Misfiles history k → p.spec = k

variable {K}

theorem identified_empty (misfiled : Spec → Prop) : (K.view K.empty).Identified misfiled := by
  have hlists := K.lists K.sound_empty
  rw [K.register_empty] at hlists
  refine ⟨?_, ?_, ?_⟩
  · intro name d hd
    have hmem := (hlists.databases name).2 (Option.isSome_of_eq_some hd)
    cases hmem
  · intro k t ht
    have hmem := (hlists.tableSpecs k).2 (Option.isSome_of_eq_some ht)
    cases hmem
  · intro k p hp
    have hmem := (hlists.partitionSpecs k).2 (Option.isSome_of_eq_some hp)
    cases hmem

theorem identified_serve {misfiled : Spec → Prop} {s : K.State} (hs : K.Sound s)
    (h : (K.view s).Identified misfiled) (o : K.Occasion) {r : Request}
    (hr : ∀ k p, r = .alterPartition k p → ¬ misfiled k → p.spec = k) :
    (K.view (K.serve o r s).2).Identified misfiled := by
  cases ha : (K.serve o r s).1 with
  | error e =>
    rw [K.refused hs ha]
    exact h
  | ok a => exact h.accepts hr (K.accepted hs ha)

theorem identified_after {misfiled : Spec → Prop} {s : K.State} (hs : K.Sound s)
    (h : (K.view s).Identified misfiled) {history : List (K.Occasion × Request)}
    (hhistory : ∀ x ∈ history, ∀ k p, x.2 = .alterPartition k p → ¬ misfiled k → p.spec = k) :
    (K.view (K.after history s)).Identified misfiled := by
  induction history generalizing s with
  | nil => exact h
  | cons x history ih =>
    have hfirst := identified_serve hs h x.1 (hhistory x List.mem_cons_self)
    exact ih (K.sound_serve x.1 x.2 hs) hfirst fun y hy => hhistory y (List.mem_cons_of_mem _ hy)

theorem identifies_after (history : List (K.Occasion × Request)) :
    K.Identifies history (K.after history K.empty) := by
  have hsound := sound_after K.sound_empty history
  have hidentified : (K.view (K.after history K.empty)).Identified (K.Misfiles history) := by
    refine identified_after K.sound_empty (identified_empty _) ?_
    intro x hx k p hxp hfiled
    by_contra hother
    exact hfiled ⟨x, hx, p, hxp, hother⟩
  refine ⟨?_, ?_, ?_⟩
  · intro o name d hd
    obtain ⟨hview, -⟩ := K.accepted hsound hd
    exact hidentified.database name d hview.symm
  · intro o k t ht
    obtain ⟨hview, -⟩ := K.accepted hsound ht
    exact hidentified.table k.tableSpec t hview.symm
  · intro o k p hp hfiled
    obtain ⟨hview, -⟩ := K.accepted hsound hp
    exact hidentified.partition k p hview.symm hfiled

end Kind

/-- **Look-ups find the records of what was asked for**, after any history and in catalogs of either
kind; a partition that a history alters with the record of another is left out. -/
theorem lookups_identify (history : List (Kind.keyed.Occasion × Request))
    (history' : List (Kind.relational.Occasion × Request)) :
    Kind.keyed.Identifies history (Kind.keyed.after history {}) ∧
      Kind.relational.Identifies history' (Kind.relational.after history' {}) :=
  ⟨Kind.identifies_after history, Kind.identifies_after history'⟩

/-- The partition `d.t/ds=1`. -/
def firstPartition : PartitionRecord :=
  { database := "d", table := "t", name := "ds=1", values := ["1"] }

/-- The partition `d.t/ds=2`. -/
def secondPartition : PartitionRecord :=
  { database := "d", table := "t", name := "ds=2", values := ["2"] }

/-- A history that alters one partition with the record of another. -/
def alteration : List Request :=
  [.createDatabaseIfAbsent { name := "d" }, .createTable { database := "d", name := "t" },
    .addPartition firstPartition, .alterPartition firstPartition.spec secondPartition]

/-- A look-up of the altered partition finds the other, in catalogs of either kind. -/
theorem alteration_misfiles :
    (∃ p, (Kind.keyed.serve (0 : Int) (.getPartition firstPartition.spec)
        (Kind.keyed.after (alteration.map fun r => ((0 : Int), r)) {})).1 = .ok (some p) ∧
      p.spec = secondPartition.spec ∧ p.spec ≠ firstPartition.spec) ∧
    ∃ p, (Kind.relational.serve ((0 : Int), false) (.getPartition firstPartition.spec)
        (Kind.relational.after (alteration.map fun r => (((0 : Int), false), r)) {})).1 =
          .ok (some p) ∧
      p.spec = secondPartition.spec ∧ p.spec ≠ firstPartition.spec := by
  refine ⟨⟨_, rfl, rfl, ?_⟩, ⟨_, rfl, rfl, ?_⟩⟩
  · decide
  · decide

end CatalogReplication.Catalog
