import CatalogReplication.Proofs.Catalog.Relational

/-!
# Two kinds of catalogs, one behaviour

A keyed and a relational catalog that begin empty and serve the same requests at the same times
answer alike, up to the numbers that they give to records (`answers_agree`). The invariant is that
both hold the same under all names and specs, up to numbers, and have their partitions in the same
order (`Mirrors`); every request keeps it (`Mirrors.serve`).
-/

namespace CatalogReplication

/-! ### Up to numbers -/

section

variable {ρ : Type} [Maintained ρ]

/-- A body without the number of its record. -/
def Body.unnumbered (b : Body) : Body := { b with stamp := { b.stamp with catalogId := none } }

/-- A record without its number. -/
def unnumbered (r : ρ) : ρ := Maintained.withBody (Maintained.body r).unnumbered r

theorem body_unnumbered (r : ρ) :
    Maintained.body (unnumbered r) = (Maintained.body r).unnumbered :=
  Maintained.body_withBody _ _

/-- Records stored at one time that were created at one time differ only in their numbers. -/
theorem unnumbered_stamp (now id id' : Int) (created : Option Int) (r : ρ) :
    unnumbered (Catalog.stamp now id created r) = unnumbered (Catalog.stamp now id' created r) := by
  unfold unnumbered Catalog.stamp
  rw [Maintained.body_withBody, Maintained.body_withBody, Maintained.withBody_withBody,
    Maintained.withBody_withBody]
  rfl

theorem createTime_eq_of_unnumbered_eq {r r' : ρ} (h : unnumbered r = unnumbered r') :
    (Maintained.body r).stamp.createTime = (Maintained.body r').stamp.createTime := by
  have hbody := congrArg Maintained.body h
  rw [body_unnumbered, body_unnumbered] at hbody
  have htime := congrArg (fun b : Body => b.stamp.createTime) hbody
  exact htime

theorem unstamped_unnumbered (r : ρ) : unstamped (unnumbered r) = unstamped r := by
  unfold unstamped
  rw [body_unnumbered]
  unfold unnumbered
  rw [Maintained.withBody_withBody]
  rfl

theorem map_unstamped_eq_of_map_unnumbered_eq {r r' : Option ρ}
    (h : r.map unnumbered = r'.map unnumbered) : r.map unstamped = r'.map unstamped := by
  have hmap := congrArg (Option.map unstamped) h
  simp only [Option.map_map, Function.comp_def, unstamped_unnumbered] at hmap
  exact hmap

end

namespace Catalog

/-- Views that differ only in the numbers of their records. -/
structure View.Matches (v v' : View) : Prop where
  database : v.database = v'.database
  table : ∀ k, (v.table k).map unnumbered = (v'.table k).map unnumbered
  partition : ∀ k, (v.partition k).map unnumbered = (v'.partition k).map unnumbered

theorem View.Matches.similar {v v' : View} (h : v.Matches v') : v.Similar v' :=
  ⟨h.database, fun k => map_unstamped_eq_of_map_unnumbered_eq (h.table k),
    fun k => map_unstamped_eq_of_map_unnumbered_eq (h.partition k)⟩

/-- Two answers to a request that differ only in the numbers of records. -/
def Request.Alike : (r : Request) → r.Answer → r.Answer → Prop
  | .getTable _, a, a' => a.map unnumbered = a'.map unnumbered
  | .getPartition _, a, a' => a.map unnumbered = a'.map unnumbered
  | .getDatabase _, a, a' => a = a'
  | .createDatabaseIfAbsent _, a, a' => a = a'
  | .createTable _, a, a' => a = a'
  | .alterTable _, a, a' => a = a'
  | .addPartition _, a, a' => a = a'
  | .alterPartition _ _, a, a' => a = a'
  | .listPartitionNames _, a, a' => a = a'

/-- Two catalogs deal with a request alike: both answer, up to the numbers of records with the same,
or both reject it with the same error. -/
inductive Agrees (r : Request) : Except Failure r.Answer → Except Failure r.Answer → Prop where
  | answered {a a' : r.Answer} (h : r.Alike a a') : Agrees r (.ok a) (.ok a')
  | rejected (e : Error) : Agrees r (.error (.catalog e)) (.error (.catalog e))

/-! ### The names of partitions -/

/-- The names that some specs give to the partitions of a table, in increasing order. -/
def namesOf (spec : Spec) (specs : List Spec) : List String :=
  (specs.filterMap fun s => if s.tableSpec = spec.tableSpec then s.partition else none).mergeSort
    fun a b => !decide (b < a)

theorem Keyed.partitionNames_eq (spec : Spec) (c : Keyed) :
    c.partitionNames spec = namesOf spec (Assoc.keys c.partitions) := rfl

theorem Relational.partitionNames_eq (spec : Spec) (c : Relational) :
    c.partitionNames spec = namesOf spec (c.partitions.map Row.spec) := by
  unfold partitionNames namesOf
  rw [List.filterMap_map]
  rfl

theorem Relational.map_spec_replaceDocument (id : Nat) (document : Value) (rows : List Row) :
    (replaceDocument id document rows).map Row.spec = rows.map Row.spec := by
  unfold replaceDocument
  rw [List.map_map]
  refine List.map_congr_left fun r _ => ?_
  simp only [Function.comp]
  split <;> rfl

/-! ### Catalogs that mirror each other -/

/-- A keyed and a relational catalog that hold the same up to the numbers of records, with their
partitions in the same order. -/
structure Mirrors (c : Keyed) (s : Relational) : Prop where
  sound : s.Sound
  view : c.view.Matches s.view
  partitions : Assoc.keys c.partitions = s.partitions.map Row.spec

/-- Putting a record under a spec and keeping a row of it under that spec come to the same, if the
two differ only in their numbers. -/
theorem map_unnumbered_put {ρ : Type} [Maintained ρ] [Stored ρ] {m : Assoc Spec ρ}
    {rows rows' : List Row} {k : Spec} {x y : ρ}
    (h : ∀ k', (m.lookup k').map unnumbered = (Relational.record? ρ rows k').map unnumbered)
    (hrows : Relational.record? ρ rows' = Function.update (Relational.record? ρ rows) k (some y))
    (hxy : unnumbered x = unnumbered y) (k' : Spec) :
    ((Assoc.put k x m).lookup k').map unnumbered =
      (Relational.record? ρ rows' k').map unnumbered := by
  have hput : (Assoc.put k x m).lookup k' =
      Function.update (fun k' => m.lookup k') k (some x) k' := congrFun (Keyed.lookup_put k x m) k'
  rw [hput, hrows]
  by_cases hk : k' = k
  · subst hk
    rw [Function.update_self, Function.update_self, Option.map_some, Option.map_some, hxy]
  · rw [Function.update_of_ne hk, Function.update_of_ne hk]
    exact h k'

section

variable {c : Keyed} {s : Relational} {now : Int}

theorem mirrors_empty : Mirrors {} {} :=
  ⟨Relational.sound_empty.1, ⟨rfl, fun _ => rfl, fun _ => rfl⟩, rfl⟩

theorem Mirrors.createDatabaseIfAbsent (h : Mirrors c s) (d : DatabaseRecord) :
    Agrees (.createDatabaseIfAbsent d) (c.serve now (.createDatabaseIfAbsent d)).1
        (s.serve now false (.createDatabaseIfAbsent d)).1 ∧
      Mirrors (c.serve now (.createDatabaseIfAbsent d)).2
        (s.serve now false (.createDatabaseIfAbsent d)).2 := by
  obtain ⟨a, ha, ⟨hanswer, hview⟩, hsound⟩ :=
    Relational.createDatabaseIfAbsent_accepted now h.sound d
  rw [Relational.serve_eq h.sound, ha, hanswer]
  obtain ⟨a', ha', hanswer', hview'⟩ :=
    Keyed.serve_accepts now (r := .createDatabaseIfAbsent d) (c := c) rfl
  rw [ha', hanswer', h.view.database]
  refine ⟨.answered rfl, hsound, ?_, ?_⟩
  · rw [hview, hview']
    have hdatabase := (h.view.similar.ensureDatabase d).database
    refine ⟨hdatabase, fun k => ?_, fun k => ?_⟩
    · rw [View.table_ensureDatabase, View.table_ensureDatabase]
      exact h.view.table k
    · rw [View.partition_ensureDatabase, View.partition_ensureDatabase]
      exact h.view.partition k
  · have hkeyed : (c.serve now (.createDatabaseIfAbsent d)).2.partitions = c.partitions := by
      cases hd : c.databases.lookup d.name <;> simp [Keyed.serve, Keyed.hasKey_eq_isSome, hd]
    have hrows : (s.serveWhole now (.createDatabaseIfAbsent d)).2.partitions = s.partitions := by
      cases hd : s.databases.lookup d.name <;> simp [Relational.serveWhole, hd]
    rw [hkeyed, hrows]
    exact h.partitions

theorem Mirrors.createTable (h : Mirrors c s) {t : TableRecord}
    (hr : c.view.rejection? (.createTable t) = none) :
    Agrees (.createTable t) (c.serve now (.createTable t)).1
        (s.serve now false (.createTable t)).1 ∧
      Mirrors (c.serve now (.createTable t)).2 (s.serve now false (.createTable t)).2 := by
  obtain ⟨hd, ht⟩ := View.createTable_accepted.1 hr
  simp only [Keyed.view] at hd ht
  have hkeyed : c.serve now (.createTable t) = c.changed (c.createTable now t) := rfl
  rw [hkeyed, Keyed.createTable, Keyed.hasKey_eq_isSome, Keyed.hasKey_eq_isSome, hd, ht]
  rw [h.view.similar.rejection?] at hr
  obtain ⟨hrow, hcreate⟩ := Relational.createTable_eq now h.sound hr
  have hrows : s.serveWhole now (.createTable t) = s.changed (s.createTable now t) := rfl
  rw [Relational.serve_eq h.sound, hrows, hcreate]
  refine ⟨.answered rfl, ⟨h.sound.whole, h.sound.databases, h.sound.tables.append _ _,
    h.sound.partitions⟩, ⟨h.view.database, ?_, h.view.partition⟩, h.partitions⟩
  exact map_unnumbered_put h.view.table (Relational.record?_append hrow _)
    (unnumbered_stamp now (c.lastId + 1 : Nat) (s.tables.length + 1 : Nat) none t)

theorem Mirrors.addPartition (h : Mirrors c s) {p : PartitionRecord}
    (hr : c.view.rejection? (.addPartition p) = none) :
    Agrees (.addPartition p) (c.serve now (.addPartition p)).1
        (s.serve now false (.addPartition p)).1 ∧
      Mirrors (c.serve now (.addPartition p)).2 (s.serve now false (.addPartition p)).2 := by
  obtain ⟨ht, hp⟩ := View.addPartition_accepted.1 hr
  simp only [Keyed.view] at ht hp
  have hkeyed : c.serve now (.addPartition p) = c.changed (c.addPartition now p) := rfl
  rw [hkeyed, Keyed.addPartition, Keyed.hasKey_eq_isSome, Keyed.hasKey_eq_isSome, ht, hp]
  rw [h.view.similar.rejection?] at hr
  obtain ⟨hrow, hadd⟩ := Relational.addPartition_eq now h.sound hr
  have hrows : s.serveWhole now (.addPartition p) = s.changed (s.addPartition now p) := rfl
  rw [Relational.serve_eq h.sound, hrows, hadd]
  refine ⟨.answered rfl, ⟨h.sound.whole, h.sound.databases, h.sound.tables,
    h.sound.partitions.append _ _⟩, ⟨h.view.database, h.view.table, ?_⟩, ?_⟩
  · exact map_unnumbered_put h.view.partition (Relational.record?_append hrow _)
      (unnumbered_stamp now (c.lastId + 1 : Nat) (s.partitions.length + 1 : Nat) none p)
  · have hnew : p.spec ∉ Assoc.keys c.partitions := by
      rw [← Assoc.hasKey_iff_mem_keys, Keyed.hasKey_eq_isSome, hp]
      exact Bool.false_ne_true
    have hkeys := (Assoc.keys_put p.spec (stamp now (c.lastId + 1 : Nat) none p) c.partitions).trans
      (if_neg hnew)
    rw [h.partitions] at hkeys
    refine hkeys.trans ?_
    show _ = (s.partitions ++ [_]).map Row.spec
    rw [List.map_append]
    rfl

theorem Mirrors.alterTable (h : Mirrors c s) {t : TableRecord}
    (hr : c.view.rejection? (.alterTable t) = none) :
    Agrees (.alterTable t) (c.serve now (.alterTable t)).1
        (s.serve now false (.alterTable t)).1 ∧
      Mirrors (c.serve now (.alterTable t)).2 (s.serve now false (.alterTable t)).2 := by
  obtain ⟨stored, ht⟩ := Option.isSome_iff_exists.1 (View.alterTable_accepted.1 hr)
  have hmap := h.view.table t.spec
  rw [ht, Option.map_some] at hmap
  obtain ⟨stored', ht', hstored⟩ := Option.map_eq_some_iff.1 hmap.symm
  simp only [Keyed.view] at ht
  have hkeyed : c.serve now (.alterTable t) = c.changed (c.alterTable now t) := rfl
  rw [hkeyed, Keyed.alterTable, ht]
  obtain ⟨r, hrow, halter⟩ := Relational.alterTable_eq now h.sound ht'
  have hrows : s.serveWhole now (.alterTable t) = s.changed (s.alterTable now t) := rfl
  rw [Relational.serve_eq h.sound, hrows, halter]
  refine ⟨.answered rfl, ⟨h.sound.whole, h.sound.databases, h.sound.tables.replace _ _,
    h.sound.partitions⟩, ⟨h.view.database, ?_, h.view.partition⟩, h.partitions⟩
  have htime : stored'.body.stamp.createTime = stored.body.stamp.createTime :=
    createTime_eq_of_unnumbered_eq hstored
  rw [htime]
  exact map_unnumbered_put h.view.table (h.sound.tables.record?_replace hrow _)
    (unnumbered_stamp now (stored.body.stamp.catalogId.getD 0) r.id stored.body.stamp.createTime t)

theorem Mirrors.alterPartition (h : Mirrors c s) {k : Spec} {p : PartitionRecord}
    (hr : c.view.rejection? (.alterPartition k p) = none) :
    Agrees (.alterPartition k p) (c.serve now (.alterPartition k p)).1
        (s.serve now false (.alterPartition k p)).1 ∧
      Mirrors (c.serve now (.alterPartition k p)).2
        (s.serve now false (.alterPartition k p)).2 := by
  obtain ⟨stored, hp⟩ := Option.isSome_iff_exists.1 (View.alterPartition_accepted.1 hr)
  have hmap := h.view.partition k
  rw [hp, Option.map_some] at hmap
  obtain ⟨stored', hp', hstored⟩ := Option.map_eq_some_iff.1 hmap.symm
  simp only [Keyed.view] at hp
  have hkeyed : c.serve now (.alterPartition k p) = c.changed (c.alterPartition now k p) := rfl
  rw [hkeyed, Keyed.alterPartition, hp]
  obtain ⟨r, hrow, halter⟩ := Relational.alterPartition_eq now h.sound (p := p) hp'
  have hrows : s.serveWhole now (.alterPartition k p) = s.changed (s.alterPartition now k p) := rfl
  rw [Relational.serve_eq h.sound, hrows, halter]
  refine ⟨.answered rfl, ⟨h.sound.whole, h.sound.databases, h.sound.tables,
    h.sound.partitions.replace _ _⟩, ⟨h.view.database, h.view.table, ?_⟩, ?_⟩
  · have htime : stored'.body.stamp.createTime = stored.body.stamp.createTime :=
      createTime_eq_of_unnumbered_eq hstored
    rw [htime]
    exact map_unnumbered_put h.view.partition (h.sound.partitions.record?_replace hrow _)
      (unnumbered_stamp now (stored.body.stamp.catalogId.getD 0) r.id
        stored.body.stamp.createTime p)
  · have hold : k ∈ Assoc.keys c.partitions := by
      rw [← Assoc.hasKey_iff_mem_keys, Keyed.hasKey_eq_isSome, hp]
      rfl
    have hspecs := Relational.map_spec_replaceDocument r.id
      (Stored.document (stamp now r.id stored'.body.stamp.createTime p)) s.partitions
    exact ((Assoc.keys_put _ _ _).trans (if_pos hold)).trans (h.partitions.trans hspecs.symm)

/-- **Every request keeps the mirror**, and is dealt with alike. -/
theorem Mirrors.serve (h : Mirrors c s) (now : Int) (r : Request) :
    Agrees r (c.serve now r).1 (s.serve now false r).1 ∧
      Mirrors (c.serve now r).2 (s.serve now false r).2 := by
  cases hr : c.view.rejection? r with
  | some e =>
    have hr' := hr
    rw [h.view.similar.rejection?] at hr'
    rw [Keyed.serve_rejects now hr, Relational.serve_rejects now h.sound hr']
    exact ⟨.rejected e, h⟩
  | none =>
    cases r with
    | createDatabaseIfAbsent d => exact h.createDatabaseIfAbsent d
    | createTable t => exact h.createTable hr
    | alterTable t => exact h.alterTable hr
    | addPartition p => exact h.addPartition hr
    | alterPartition k p => exact h.alterPartition hr
    | getDatabase name =>
      rw [Relational.serve_eq h.sound]
      have hrows : s.serveWhole now (.getDatabase name) = (s.getDatabase name, s) := rfl
      rw [hrows, Relational.getDatabase_eq h.sound, ← h.view.database]
      exact ⟨.answered rfl, h⟩
    | getTable k =>
      rw [Relational.serve_eq h.sound]
      have hrows : s.serveWhole now (.getTable k) = (s.getTable k, s) := rfl
      rw [hrows, Relational.getTable_eq h.sound]
      exact ⟨.answered (h.view.table k.tableSpec), h⟩
    | getPartition k =>
      rw [Relational.serve_eq h.sound]
      have hrows : s.serveWhole now (.getPartition k) = (s.getPartition k, s) := rfl
      rw [hrows, Relational.getPartition_eq h.sound]
      exact ⟨.answered (h.view.partition k), h⟩
    | listPartitionNames k =>
      rw [Relational.serve_eq h.sound]
      refine ⟨.answered ?_, h⟩
      show c.partitionNames k = s.partitionNames k
      rw [Keyed.partitionNames_eq, Relational.partitionNames_eq, h.partitions]

end

/-! ### Histories -/

/-- A keyed catalog after requests, each served at its time. -/
def Keyed.after (history : List (Int × Request)) (c : Keyed) : Keyed :=
  history.foldl (fun c x => (c.serve x.1 x.2).2) c

/-- A relational catalog after requests, each served at its time. -/
def Relational.after (history : List (Int × Request)) (c : Relational) : Relational :=
  history.foldl (fun c x => (c.serve x.1 false x.2).2) c

theorem Mirrors.after {c : Keyed} {s : Relational} (h : Mirrors c s)
    (history : List (Int × Request)) : Mirrors (c.after history) (s.after history) := by
  induction history generalizing c s with
  | nil => exact h
  | cons x history ih => exact ih (h.serve x.1 x.2).2

/-- **Keyed and relational catalogs agree**: after the same requests at the same times, an empty
catalog of either kind deals with the next one alike. -/
theorem answers_agree (history : List (Int × Request)) (now : Int) (r : Request) :
    Agrees r (Keyed.serve now r (Keyed.after history {})).1
      (Relational.serve now false r (Relational.after history {})).1 :=
  ((mirrors_empty.after history).serve now r).1

end Catalog

end CatalogReplication
