import CatalogReplication.Proofs.Catalog.Integrity
import CatalogReplication.Proofs.Catalog.Site

/-!
# What catalogs keep up of a record

From the moment when a table or a partition is accepted, its number stays, its last access is
unknown, and the time of its last change is that of the last accepted request for it. The time of
its creation stays too, unless it is zero: a stored zero counts as no time, so the first change at
another time takes its place (`creation_overwritten`). `upkeep_kept` says all this of every history
of a catalog of either kind and of all readings of the clock, with `shows_serve` for one request and
an induction for all.
-/

namespace CatalogReplication.Catalog

/-- What a catalog keeps up of a record. -/
structure Upkeep where
  id : Int
  created : Int
  changed : Int

/-- What it keeps up after a change at a time. -/
def Upkeep.change (u : Upkeep) (now : Int) : Upkeep :=
  { u with created := createTime now (some u.created), changed := now }

/-- The record at a place shows what is kept up of it. -/
def View.Shows (v : View) (s : Site) (u : Upkeep) : Prop :=
  ∃ x, v.record? s = some (.object x) ∧
    x.body.stamp =
      { createTime := some u.created, lastAccessTime := none, catalogId := some u.id } ∧
    x.body.parameters.get? lastChangeKey = some (toString u.changed)

theorem shows_put {ρ : Type} [Sited ρ] (k : Spec) (x : ρ) (now id : Int) (created : Option Int)
    (v : View) : (Catalogued.put k (stamp now id created x) v).Shows (Sited.site ρ k)
      { id, created := createTime now created, changed := now } := by
  refine ⟨Sited.inject (stamp now id created x), ?_, ?_, ?_⟩
  · rw [Sited.record?_site, Catalogued.find_put_self]
    rfl
  · rw [Sited.body_inject, stamp, Maintained.body_withBody]
    rfl
  · rw [Sited.body_inject, stamp, Maintained.body_withBody]
    exact (Parameters.get?_insert _ _ _ _).trans (if_pos rfl)

/-- What is at a place that shows something. -/
theorem View.Shows.find {ρ : Type} [Sited ρ] {v : View} {k : Spec} {u : Upkeep}
    (h : v.Shows (Sited.site ρ k) u) : ∃ x : ρ, Catalogued.find k v = some x ∧
      (Maintained.body x).stamp =
        { createTime := some u.created, lastAccessTime := none, catalogId := some u.id } := by
  obtain ⟨y, hy, hstamp, -⟩ := h
  rw [Sited.record?_site] at hy
  obtain ⟨x, hx, heq⟩ := Option.map_eq_some_iff.1 hy
  refine ⟨x, hx, ?_⟩
  rw [← Sited.body_inject, AnyRecord.object.inj heq]
  exact hstamp

theorem View.Shows.congr {v v' : View} {s : Site} {u : Upkeep} (h : v.Shows s u)
    (hs : v'.record? s = v.record? s) : v'.Shows s u := by
  obtain ⟨x, hx, h⟩ := h
  exact ⟨x, hs.trans hx, h⟩

namespace Kind

/-- An accepted change of records of a sort keeps their numbers and the stored times of their
creation. -/
def Renews (K : Kind) (ρ : Type) [Catalogued ρ] : Prop :=
  ∀ {o : K.Occasion} {s : K.State} {k : Spec} {x stored : ρ} {id : Int}
    {a : (Replicable.alter k x).Answer}, K.Sound s →
      (K.serve o (Replicable.alter k x) s).1 = .ok a →
        Catalogued.find (Catalogued.alterKey k x) (K.view s) = some stored →
          number stored = some id →
            K.view (K.serve o (Replicable.alter k x) s).2 =
              Catalogued.put (Catalogued.alterKey k x)
                (stamp (K.time o) id (Maintained.body stored).stamp.createTime x) (K.view s)

end Kind

/-! ### Both kinds keep numbers and times of creation -/

theorem Keyed.alterTable_eq (now : Int) {c : Keyed} {t stored : TableRecord}
    (ht : c.view.table t.spec = some stored) :
    c.alterTable now t = .ok { c with
      tables := Assoc.put t.spec
        (stamp now ((number stored).getD 0) stored.body.stamp.createTime t) c.tables } := by
  have hlookup : c.tables.lookup t.spec = some stored := ht
  unfold alterTable
  rw [hlookup]
  rfl

theorem Keyed.alterPartition_eq (now : Int) {c : Keyed} {k : Spec} {p stored : PartitionRecord}
    (hp : c.view.partition k = some stored) :
    c.alterPartition now k p = .ok { c with
      partitions := Assoc.put k
        (stamp now ((number stored).getD 0) stored.body.stamp.createTime p) c.partitions } := by
  have hlookup : c.partitions.lookup k = some stored := hp
  unfold alterPartition
  rw [hlookup]
  rfl

theorem renews_keyed_table : Kind.keyed.Renews TableRecord := by
  intro o s k t stored id a hs ha hstored hid
  have hserve : Keyed.serve o (.alterTable t) s = Keyed.changed s (Keyed.alterTable o t s) := rfl
  show (Keyed.serve o (.alterTable t) s).2.view = _
  rw [hserve, Keyed.alterTable_eq o hstored, hid]
  exact View.ext rfl (Keyed.lookup_put _ _ _) rfl

theorem renews_keyed_partition : Kind.keyed.Renews PartitionRecord := by
  intro o s k p stored id a hs ha hstored hid
  have hpartition : s.view.partition k = some stored := hstored
  have hserve : Keyed.serve o (.alterPartition k p) s =
      Keyed.changed s (Keyed.alterPartition o k p s) := rfl
  have halter := Keyed.alterPartition_eq o (p := p) hpartition
  show (Keyed.serve o (.alterPartition k p) s).2.view = _
  rw [hserve, halter, hid]
  exact View.ext rfl rfl (Keyed.lookup_put _ _ _)

/-- The record of a row shows the number of the row. -/
theorem Relational.Numbered.id_eq {ρ : Type} [Maintained ρ] [Stored ρ] {rows : List Row} {r : Row}
    {k : Spec} {x : ρ} {id : Int} (h : Numbered ρ rows) (htidy : Tidy ρ rows)
    (hrow : row? k rows = some r) (hx : record? ρ rows k = some x) (hid : number x = some id) :
    (r.id : Int) = id := by
  obtain ⟨y, hdocument, hnumber⟩ := h r (mem_of_row? hrow)
  obtain ⟨r', hrow', hdocument'⟩ := htidy.row?_of_record? hx
  obtain rfl := Option.some.inj (hrow.symm.trans hrow')
  have hread : (.ok y : Except Failure ρ) = .ok x := by
    rw [← read_document, ← read_document, ← hdocument, ← hdocument']
  obtain rfl := Except.ok.inj hread
  exact Option.some.inj (hnumber.symm.trans hid)

theorem renews_relational_table : Kind.relational.Renews TableRecord := by
  intro o s k t stored id a hs ha hstored hid
  have hview : s.view.table t.spec = some stored := hstored
  have hlocked : s.serve o.1 o.2 (.alterTable t) = s.serve o.1 false (.alterTable t) :=
    Relational.serve_of_ok hs.sound ha
  obtain ⟨r, hrow, halter⟩ := Relational.alterTable_eq o.1 hs.sound hview
  have hserve : s.serveWhole o.1 (.alterTable t) = s.changed (s.alterTable o.1 t) := rfl
  have hnumber : (r.id : Int) = id := hs.tables.id_eq hs.sound.tables hrow hview hid
  show (s.serve o.1 o.2 (.alterTable t)).2.view = _
  rw [hlocked, Relational.serve_eq hs.sound, hserve, halter, hnumber]
  exact View.ext rfl (hs.sound.tables.record?_replace hrow _) rfl

theorem renews_relational_partition : Kind.relational.Renews PartitionRecord := by
  intro o s k p stored id a hs ha hstored hid
  have hview : s.view.partition k = some stored := hstored
  have hlocked : s.serve o.1 o.2 (.alterPartition k p) = s.serve o.1 false (.alterPartition k p) :=
    Relational.serve_of_ok hs.sound ha
  obtain ⟨r, hrow, halter⟩ := Relational.alterPartition_eq o.1 hs.sound (p := p) hview
  have hserve : s.serveWhole o.1 (.alterPartition k p) = s.changed (s.alterPartition o.1 k p) := rfl
  have hnumber : (r.id : Int) = id := hs.partitions.id_eq hs.sound.partitions hrow hview hid
  show (s.serve o.1 o.2 (.alterPartition k p)).2.view = _
  rw [hlocked, Relational.serve_eq hs.sound, hserve, halter, hnumber]
  exact View.ext rfl rfl (hs.sound.partitions.record?_replace hrow _)

/-! ### Histories -/

namespace Kind

/-- The times of the accepted requests of a history that write at a place. -/
def changes (K : Kind) (site : Site) : List (K.Occasion × Request) → K.State → List Int
  | [], _ => []
  | (o, r) :: history, s =>
    let later := changes K site history (K.serve o r s).2
    match (K.serve o r s).1 with
    | .ok _ => if r.site? = some site then K.time o :: later else later
    | .error _ => later

variable {K : Kind} {s : K.State} {site : Site} {u : Upkeep}

/-- A place with a record is not one where a request may create one. -/
theorem not_isNumbered_of_shows (hs : K.Sound s) (h : (K.view s).Shows site u) {o : K.Occasion}
    {r : Request} {a : r.Answer} (ha : (K.serve o r s).1 = .ok a) (hr : r.site? = some site) :
    r.isNumbered = false := by
  obtain ⟨x, hx, -⟩ := h
  have hlists := K.lists hs
  obtain ⟨n, hadmits, -⟩ := K.entered hs ha
  cases r with
  | createTable t =>
    obtain rfl := Option.some.inj hr
    obtain ⟨-, hnew, -⟩ := hadmits
    refine absurd ((hlists.tableSpecs t.spec).2 ?_) hnew
    obtain ⟨y, hy, -⟩ := Option.map_eq_some_iff.1 hx
    rw [hy]
    rfl
  | addPartition p =>
    obtain rfl := Option.some.inj hr
    obtain ⟨-, hnew, -⟩ := hadmits
    refine absurd ((hlists.partitionSpecs p.spec).2 ?_) hnew
    obtain ⟨y, hy, -⟩ := Option.map_eq_some_iff.1 hx
    rw [hy]
    rfl
  | _ => rfl

/-- An accepted change of a record, and what is kept up of it. -/
theorem shows_alter {ρ : Type} [Sited ρ] (hK : K.Renews ρ) (hs : K.Sound s) {o : K.Occasion}
    {k : Spec} {x : ρ} {a : (Replicable.alter k x).Answer}
    (ha : (K.serve o (Replicable.alter k x) s).1 = .ok a)
    (h : (K.view s).Shows (Sited.site ρ (Catalogued.alterKey k x)) u) :
    (K.view (K.serve o (Replicable.alter k x) s).2).Shows
      (Sited.site ρ (Catalogued.alterKey k x)) (u.change (K.time o)) := by
  obtain ⟨stored, hfind, hstamp⟩ := h.find
  have hid : number stored = some u.id := congrArg Stamp.catalogId hstamp
  have hcreated : (Maintained.body stored).stamp.createTime = some u.created :=
    congrArg Stamp.createTime hstamp
  rw [hK hs ha hfind hid, hcreated]
  exact shows_put _ x (K.time o) u.id (some u.created) (K.view s)

/-- One request, and what is kept up of a record. -/
theorem shows_serve (htable : K.Renews TableRecord) (hpartition : K.Renews PartitionRecord)
    (hs : K.Sound s) (h : (K.view s).Shows site u) (o : K.Occasion) (r : Request) :
    (K.view (K.serve o r s).2).Shows site ((K.changes site [(o, r)] s).foldl Upkeep.change u) := by
  unfold changes
  cases ha : (K.serve o r s).1 with
  | error e =>
    rw [K.refused hs ha]
    exact h
  | ok a =>
    by_cases hr : r.site? = some site
    · have hnumbered := not_isNumbered_of_shows hs h ha hr
      simp only [if_pos hr]
      cases r with
      | alterTable t =>
        obtain rfl := Option.some.inj hr
        exact shows_alter (k := t.spec) htable hs ha h
      | alterPartition k p =>
        obtain rfl := Option.some.inj hr
        exact shows_alter hpartition hs ha h
      | createDatabaseIfAbsent d =>
        obtain rfl := Option.some.inj hr
        obtain ⟨x, hx, -⟩ := h
        obtain ⟨y, -, hy⟩ := Option.map_eq_some_iff.1 hx
        cases hy
      | createTable t => cases hnumbered
      | addPartition p => cases hnumbered
      | _ => cases hr
    · simp only [if_neg hr]
      exact h.congr ((K.accepted hs ha).record?_eq hr)

theorem changes_cons (o : K.Occasion) (r : Request) (history : List (K.Occasion × Request)) :
    K.changes site ((o, r) :: history) s =
      K.changes site [(o, r)] s ++ K.changes site history (K.serve o r s).2 := by
  simp only [changes]
  cases (K.serve o r s).1 with
  | error e => rfl
  | ok a => by_cases hr : r.site? = some site <;> simp [hr]

/-- A history, and what is kept up of a record. -/
theorem shows_after (htable : K.Renews TableRecord) (hpartition : K.Renews PartitionRecord)
    (hs : K.Sound s) (h : (K.view s).Shows site u) (history : List (K.Occasion × Request)) :
    (K.view (K.after history s)).Shows site
      ((K.changes site history s).foldl Upkeep.change u) := by
  induction history generalizing s u with
  | nil => exact h
  | cons x history ih =>
    obtain ⟨o, r⟩ := x
    have hlater := ih (K.sound_serve o r hs) (shows_serve htable hpartition hs h o r)
    rw [changes_cons, List.foldl_append]
    exact hlater

/-- A record that was just created. -/
theorem shows_of_created (hs : K.Sound s) {o : K.Occasion} {r : Request} {a : r.Answer}
    (ha : (K.serve o r s).1 = .ok a) (hr : r.isNumbered = true) (hsite : r.site? = some site) :
    ∃ id, (K.view (K.serve o r s).2).Shows site
      { id, created := K.time o, changed := K.time o } := by
  have haccepts := K.accepted hs ha
  cases r with
  | createTable t =>
    obtain rfl := Option.some.inj hsite
    obtain ⟨id, hview⟩ := haccepts
    rw [hview]
    exact ⟨id, shows_put t.spec t (K.time o) id none (K.view s)⟩
  | addPartition p =>
    obtain rfl := Option.some.inj hsite
    obtain ⟨id, hview⟩ := haccepts
    rw [hview]
    exact ⟨id, shows_put p.spec p (K.time o) id none (K.view s)⟩
  | _ => cases hr

end Kind

/-! ### Histories with a clock -/

/-- What is kept up of a record after changes: its time of creation is the first that isn't zero. -/
theorem foldl_change (times : List Int) (u : Upkeep) :
    times.foldl Upkeep.change u =
      { id := u.id
        created :=
          if u.created = 0 then (times.find? fun now => now != 0).getD 0 else u.created
        changed := times.getLastD u.changed } := by
  induction times generalizing u with
  | nil =>
    obtain ⟨id, created, changed⟩ := u
    by_cases h : created = 0 <;> simp [h]
  | cons now times ih =>
    rw [List.foldl_cons, ih]
    by_cases h : u.created = 0
    · by_cases hnow : now = 0 <;>
        simp [Upkeep.change, createTime, h, hnow, List.getLast?_cons]
    · simp [Upkeep.change, createTime, h, List.getLast?_cons]

/-- The whole seconds of a reading of the clock: a fraction of a second is cut off, towards zero. -/
def wholeSeconds (reading : Rat) : Int := reading.num.tdiv reading.den

/-- The readings that count as no time lie less than a second from zero. -/
theorem wholeSeconds_eq_zero_iff (reading : Rat) :
    wholeSeconds reading = 0 ↔ reading.num.natAbs < reading.den := by
  rw [wholeSeconds, ← Int.natAbs_eq_zero, Int.natAbs_tdiv, Int.natAbs_natCast]
  exact Nat.div_eq_zero_iff.trans (or_iff_right reading.den_nz)

example : wholeSeconds (-1 / 2) = 0 := by decide +kernel

/-- A kind whose occasions are told by something that decides them. -/
def Kind.via (K : Kind) {Occasion : Type} (f : Occasion → K.Occasion) : Kind where
  State := K.State
  Occasion := Occasion
  time o := K.time (f o)
  empty := K.empty
  serve o := K.serve (f o)
  view := K.view
  register := K.register
  Sound := K.Sound
  sound_empty := K.sound_empty
  register_empty := K.register_empty
  sound_serve o := K.sound_serve (f o)
  refused := K.refused
  accepted := K.accepted
  entered := K.entered
  listed o := K.listed (f o)
  lists := K.lists

/-- Keyed catalogs that read a clock. -/
def Kind.clockedKeyed : Kind := Kind.keyed.via wholeSeconds

/-- Relational catalogs that read a clock; they may be locked. -/
def Kind.clockedRelational : Kind :=
  Kind.relational.via fun o : Rat × Bool => (wholeSeconds o.1, o.2)

/-- The kinds of catalogs that read a clock. -/
inductive Kind.IsClocked : Kind → Prop
  | keyed : IsClocked Kind.clockedKeyed
  | relational : IsClocked Kind.clockedRelational

theorem Kind.IsClocked.renews {K : Kind} (h : K.IsClocked) :
    K.Renews TableRecord ∧ K.Renews PartitionRecord := by
  cases h with
  | keyed => exact ⟨fun hs => renews_keyed_table hs, fun hs => renews_keyed_partition hs⟩
  | relational =>
    exact ⟨fun hs => renews_relational_table hs, fun hs => renews_relational_partition hs⟩

/-- **Catalogs keep up their records**: from the request that creates a table or a partition, and
after whatever is asked later, its number stays and its last change is that of the last accepted
request for it. The time of its creation stays unless it is zero, in which case the first change at
another time stands in for it. -/
theorem upkeep_kept {K : Kind} (hK : K.IsClocked) (before : List (K.Occasion × Request))
    {o : K.Occasion} {r : Request} {site : Site} {a : r.Answer} (hr : r.isNumbered = true)
    (hsite : r.site? = some site) (ha : (K.serve o r (K.after before K.empty)).1 = .ok a) :
    ∃ id, ∀ later : List (K.Occasion × Request),
      let s := (K.serve o r (K.after before K.empty)).2
      let times := K.changes site later s
      (K.view (K.after later s)).Shows site
        { id
          created :=
            if K.time o = 0 then (times.find? fun now => now != 0).getD 0 else K.time o
          changed := times.getLastD (K.time o) } := by
  have hsound : K.Sound (K.after before K.empty) := Kind.sound_after K.sound_empty before
  obtain ⟨id, hshows⟩ := Kind.shows_of_created hsound ha hr hsite
  refine ⟨id, fun later => ?_⟩
  obtain ⟨htable, hpartition⟩ := hK.renews
  have hlater := Kind.shows_after htable hpartition (K.sound_serve o r hsound) hshows later
  rw [foldl_change] at hlater
  exact hlater

/-- The table `d.t`. -/
def keptTable : TableRecord := { database := "d", name := "t" }

/-- Requests that create a table at a reading of the clock and change it at another. -/
def recreation (created changed : Rat) : List (Rat × Request) :=
  [(created, .createDatabaseIfAbsent { name := "d" }), (created, .createTable keptTable),
    (changed, .alterTable keptTable)]

/-- The story of a table that is created at 7 and changed at 9. -/
theorem upkeep_kept_keyed :
    ∃ id, (Kind.clockedKeyed.view (Kind.clockedKeyed.after (recreation 7 9) {})).Shows
      (.table keptTable.spec) { id, created := 7, changed := 9 } := by
  obtain ⟨id, h⟩ := upkeep_kept .keyed [((7 : Rat), .createDatabaseIfAbsent { name := "d" })]
    (o := (7 : Rat)) (r := .createTable keptTable) (a := ()) rfl rfl rfl
  exact ⟨id, h [((9 : Rat), .alterTable keptTable)]⟩

/-- A table that is created at 0 and changed at 5 shows 5 as the time of its creation, in catalogs
of either kind. -/
theorem creation_overwritten :
    (∃ t s, Kind.clockedKeyed.serve (5 : Rat) (.getTable keptTable.spec)
        (Kind.clockedKeyed.after (recreation 0 5) {}) = (.ok (some t), s) ∧
      t.body.stamp.createTime = some 5) ∧
    ∃ t s, Kind.clockedRelational.serve ((5 : Rat), false) (.getTable keptTable.spec)
        (Kind.clockedRelational.after
          ((recreation 0 5).map fun x => ((x.1, false), x.2)) {}) = (.ok (some t), s) ∧
      t.body.stamp.createTime = some 5 :=
  ⟨⟨_, _, rfl, rfl⟩, ⟨_, _, rfl, rfl⟩⟩

end CatalogReplication.Catalog
