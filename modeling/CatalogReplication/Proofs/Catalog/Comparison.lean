import CatalogReplication.Proofs.Catalog.Permanence

/-!
# What a catalog stores, under comparison

A catalog doesn't store a record as it is given: it writes into the record, and a relational one
keeps a document of it. None of this is seen by the comparison that decides about an alteration:
right after a record was accepted, what is looked up compares to any other record as the given
record itself does (`Discerned`). So no record is altered for the sake of what its catalog wrote,
and a difference in anything else is found.

Nothing is asked of the state in which the record is accepted (`accepted_discerned`).
-/

namespace CatalogReplication.Catalog

/-- Comparing with what is stored amounts to comparing with what was given: in `Agrees`. -/
structure Discerned {ρ : Type} [Maintained ρ] [DecidableEq ρ] (Agrees : ρ → ρ → Prop)
    (stored given : ρ) : Prop where
  self : Action.decide (some stored) given = .keep
  keep_iff : ∀ x, Action.decide (some stored) x = .keep ↔ comparable given = comparable x
  comparable_iff : ∀ x, comparable given = comparable x ↔ Agrees given x
  alter : ∀ x, comparable given ≠ comparable x → Action.decide (some stored) x = .alter

section

variable {ρ : Type} [Maintained ρ] [DecidableEq ρ] {Agrees : ρ → ρ → Prop}

/-- No stamp is seen by the comparison. -/
theorem discerned_stamp (hAgrees : ∀ r r' : ρ, comparable r = comparable r' ↔ Agrees r r')
    (now id : Int) (created : Option Int) (given : ρ) :
    Discerned Agrees (stamp now id created given) given := by
  have hstored := comparable_stamp now id created given
  refine ⟨?_, fun x => ?_, fun x => hAgrees given x, fun x hx => ?_⟩
  · exact Action.decide_eq_keep_iff.2 ⟨_, rfl, hstored⟩
  · rw [Action.decide_eq_keep_iff, ← hstored]
    constructor
    · rintro ⟨r, hr, hx⟩
      rwa [Option.some.inj hr]
    · exact fun hx => ⟨_, rfl, hx⟩
  · exact Action.decide_eq_alter (hstored ▸ hx)

end

/-! ### Keyed catalogs -/

namespace Keyed

variable {c : Keyed} {now : Int} {r : Request} {a : r.Answer}

/-- The table that is looked up after it was accepted. -/
theorem getTable_of_ok {t : TableRecord} (hr : r = .createTable t ∨ r = .alterTable t)
    (ha : (c.serve now r).1 = .ok a) (now' : Int) :
    ∃ id created, ((c.serve now r).2.serve now' (.getTable t.spec)).1 =
      .ok (some (stamp now id created t)) := by
  obtain ⟨_, -, hview⟩ := serve_accepts now (rejection?_of_ok ha)
  have hput : ∃ id created, (c.serve now r).2.view =
      c.view.putTable t.spec (stamp now id created t) := by
    rcases hr with rfl | rfl
    · obtain ⟨id, hview⟩ := hview
      exact ⟨id, none, hview⟩
    · exact hview
  obtain ⟨id, created, hput⟩ := hput
  have hfind : (c.serve now r).2.view.table t.spec = some (stamp now id created t) := by
    rw [hput]
    exact Function.update_self ..
  exact ⟨id, created, congrArg Except.ok hfind⟩

/-- The partition that is looked up after it was accepted. -/
theorem getPartition_of_ok {p : PartitionRecord}
    (hr : r = .addPartition p ∨ r = .alterPartition p.spec p)
    (ha : (c.serve now r).1 = .ok a) (now' : Int) :
    ∃ id created, ((c.serve now r).2.serve now' (.getPartition p.spec)).1 =
      .ok (some (stamp now id created p)) := by
  obtain ⟨_, -, hview⟩ := serve_accepts now (rejection?_of_ok ha)
  have hput : ∃ id created, (c.serve now r).2.view =
      c.view.putPartition p.spec (stamp now id created p) := by
    rcases hr with rfl | rfl
    · obtain ⟨id, hview⟩ := hview
      exact ⟨id, none, hview⟩
    · exact hview
  obtain ⟨id, created, hput⟩ := hput
  have hfind : (c.serve now r).2.view.partition p.spec = some (stamp now id created p) := by
    rw [hput]
    exact Function.update_self ..
  exact ⟨id, created, congrArg Except.ok hfind⟩

end Keyed

/-! ### Relational catalogs -/

namespace Relational

/-- Rows hold a record under a spec. -/
def Holds {ρ : Type} [Stored ρ] (rows : List Row) (k : Spec) (x : ρ) : Prop :=
  ∃ r, row? k rows = some r ∧ r.document = Stored.document x

section

variable {ρ : Type} [Stored ρ] {rows : List Row} {k : Spec}

theorem holds_append (hnone : row? k rows = none) (id : Nat) (x : ρ) :
    Holds (rows ++ [⟨id, k, Stored.document x⟩]) k x := by
  refine ⟨⟨id, k, Stored.document x⟩, ?_, rfl⟩
  rw [row?_append, hnone, Option.none_or, if_pos rfl]

theorem holds_replaceDocument {r : Row} (hr : row? k rows = some r) (x : ρ) :
    Holds (replaceDocument r.id (Stored.document x) rows) k x := by
  refine ⟨{ r with document := Stored.document x }, ?_, rfl⟩
  rw [row?_replaceDocument, hr, Option.map_some, if_pos (beq_self_eq_true _)]

end

variable {c c' : Relational} {now : Int} {r : Request} {a : r.Answer}

theorem getTable_of_holds {k : Spec} {t : TableRecord} (h : Holds c.tables k.tableSpec t) :
    c.getTable k = .ok (some t) := by
  obtain ⟨r, hrow, hdocument⟩ := h
  rw [getTable, hrow]
  simp only [hdocument]
  exact bind_document t _

theorem getPartition_of_holds {k : Spec} {p : PartitionRecord} (h : Holds c.partitions k p) :
    c.getPartition k = .ok (some p) := by
  obtain ⟨r, hrow, hdocument⟩ := h
  rw [getPartition, hrow]
  simp only [hdocument]
  exact bind_document p _

/-! What the four changes store if they come through. -/

/-- A chain that comes through has come through its first step. -/
theorem ok_of_bind {α β : Type} {x : Except Failure α} {f : α → Except Failure β} {b : β}
    (h : x >>= f = .ok b) : ∃ a, x = .ok a ∧ f a = .ok b := by
  cases x with
  | error e => cases h
  | ok a => exact ⟨a, rfl, h⟩

theorem holds_createTable {t : TableRecord} (h : c.createTable now t = .ok c') :
    c'.isBroken = c.isBroken ∧ ∃ id created, Holds c'.tables t.spec (stamp now id created t) := by
  obtain ⟨_ | d, -, h⟩ := ok_of_bind h
  · cases h
  · simp only at h
    split at h
    · cases h
    next hrow =>
      cases h
      exact ⟨rfl, _, none, holds_append (Option.not_isSome_iff_eq_none.1 hrow) _ _⟩

theorem holds_addPartition {p : PartitionRecord} (h : c.addPartition now p = .ok c') :
    c'.isBroken = c.isBroken ∧
      ∃ id created, Holds c'.partitions p.spec (stamp now id created p) := by
  obtain ⟨_ | t, -, h⟩ := ok_of_bind h
  · cases h
  · simp only at h
    split at h
    · cases h
    next hrow =>
      cases h
      exact ⟨rfl, _, none, holds_append (Option.not_isSome_iff_eq_none.1 hrow) _ _⟩

theorem holds_alterTable {t : TableRecord} (h : c.alterTable now t = .ok c') :
    c'.isBroken = c.isBroken ∧ ∃ id created, Holds c'.tables t.spec (stamp now id created t) := by
  unfold alterTable at h
  cases hrow : row? t.spec c.tables with
  | none =>
    rw [hrow] at h
    cases h
  | some r =>
    simp only [hrow] at h
    obtain ⟨fields, -, h⟩ := ok_of_bind h
    obtain ⟨stored, -, h⟩ := ok_of_bind h
    cases h
    exact ⟨rfl, _, _, holds_replaceDocument hrow _⟩

theorem holds_alterPartition {k : Spec} {p : PartitionRecord}
    (h : c.alterPartition now k p = .ok c') :
    c'.isBroken = c.isBroken ∧ ∃ id created, Holds c'.partitions k (stamp now id created p) := by
  unfold alterPartition at h
  cases hrow : row? k c.partitions with
  | none =>
    rw [hrow] at h
    cases h
  | some r =>
    simp only [hrow] at h
    obtain ⟨fields, -, h⟩ := ok_of_bind h
    obtain ⟨stored, -, h⟩ := ok_of_bind h
    cases h
    exact ⟨rfl, _, _, holds_replaceDocument hrow _⟩

/-- A change that is answered has come through, in a catalog with its tables. -/
theorem ok_of_changed {x : Except Failure Relational} (h : (c.changed x).1 = .ok ()) :
    x = .ok (c.changed x).2 := by
  cases x with
  | error e => cases h
  | ok c' => rfl

/-- What is answered is answered by a catalog that has its tables, as if it weren't locked. -/
theorem serve_of_answered {isLocked : Bool} (h : (c.serve now isLocked r).1 = .ok a) :
    c.isBroken = false ∧ c.serve now isLocked r = c.serveWhole now r := by
  unfold serve at h ⊢
  cases hbroken : c.isBroken with
  | true =>
    rw [hbroken] at h
    cases h
  | false =>
    rw [hbroken] at h
    cases isLocked with
    | false => exact ⟨rfl, rfl⟩
    | true =>
      have hanswer : c.serveLooking now r = .ok a := h
      refine ⟨rfl, ?_⟩
      rw [serveWhole_of_looking hanswer]
      exact Prod.ext hanswer rfl

/-- Tables and partitions can be looked up in a locked catalog too. -/
theorem serve_getTable (h : c.isBroken = false) (isLocked : Bool) (k : Spec) :
    (c.serve now isLocked (.getTable k)).1 = c.getTable k := by
  unfold serve
  rw [h]
  cases isLocked <;> rfl

theorem serve_getPartition (h : c.isBroken = false) (isLocked : Bool) (k : Spec) :
    (c.serve now isLocked (.getPartition k)).1 = c.getPartition k := by
  unfold serve
  rw [h]
  cases isLocked <;> rfl

/-- The table that is looked up after it was accepted. -/
theorem getTable_of_ok {t : TableRecord} {isLocked : Bool}
    (hr : r = .createTable t ∨ r = .alterTable t) (ha : (c.serve now isLocked r).1 = .ok a)
    (now' : Int) (isLocked' : Bool) :
    ∃ id created, ((c.serve now isLocked r).2.serve now' isLocked' (.getTable t.spec)).1 =
      .ok (some (stamp now id created t)) := by
  obtain ⟨hwhole, hserve⟩ := serve_of_answered ha
  rw [hserve] at ha ⊢
  have hholds : (c.serveWhole now r).2.isBroken = c.isBroken ∧
      ∃ id created, Holds (c.serveWhole now r).2.tables t.spec (stamp now id created t) := by
    rcases hr with rfl | rfl
    · exact holds_createTable (ok_of_changed ha)
    · exact holds_alterTable (ok_of_changed ha)
  obtain ⟨hbroken, id, created, hholds⟩ := hholds
  exact ⟨id, created, (serve_getTable (hbroken.trans hwhole) _ _).trans (getTable_of_holds hholds)⟩

/-- The partition that is looked up after it was accepted. -/
theorem getPartition_of_ok {p : PartitionRecord} {isLocked : Bool}
    (hr : r = .addPartition p ∨ r = .alterPartition p.spec p)
    (ha : (c.serve now isLocked r).1 = .ok a) (now' : Int) (isLocked' : Bool) :
    ∃ id created, ((c.serve now isLocked r).2.serve now' isLocked' (.getPartition p.spec)).1 =
      .ok (some (stamp now id created p)) := by
  obtain ⟨hwhole, hserve⟩ := serve_of_answered ha
  rw [hserve] at ha ⊢
  have hholds : (c.serveWhole now r).2.isBroken = c.isBroken ∧
      ∃ id created, Holds (c.serveWhole now r).2.partitions p.spec (stamp now id created p) := by
    rcases hr with rfl | rfl
    · exact holds_addPartition (ok_of_changed ha)
    · exact holds_alterPartition (ok_of_changed ha)
  obtain ⟨hbroken, id, created, hholds⟩ := hholds
  exact ⟨id, created,
    (serve_getPartition (hbroken.trans hwhole) _ _).trans (getPartition_of_holds hholds)⟩

end Relational

/-- **Stamps hide themselves and nothing else**: in any state of a catalog of either kind, and at
any reading of the clock, a table or a partition that is accepted is found right after, and what is
found compares to any other record as the given record does. So there is nothing to do just for the
records that agree with the given one in all fields beside the stamp and in all parameters beside
the three that catalogs write, above all for the given record itself; any other record makes for an
alteration. -/
theorem accepted_discerned {K : Kind} (hK : K.IsClocked) (s : K.State) (o o' : K.Occasion)
    (r : Request) (a : r.Answer) (ha : (K.serve o r s).1 = .ok a) :
    (∀ t : TableRecord, r = .createTable t ∨ r = .alterTable t →
      ∃ stored, (K.serve o' (.getTable t.spec) (K.serve o r s).2).1 = .ok (some stored) ∧
        Discerned TableRecord.Agrees stored t) ∧
    ∀ p : PartitionRecord, r = .addPartition p ∨ r = .alterPartition p.spec p →
      ∃ stored, (K.serve o' (.getPartition p.spec) (K.serve o r s).2).1 = .ok (some stored) ∧
        Discerned PartitionRecord.Agrees stored p := by
  have htable := discerned_stamp @TableRecord.comparable_eq_iff
  have hpartition := discerned_stamp @PartitionRecord.comparable_eq_iff
  cases hK with
  | keyed =>
    refine ⟨fun t hr => ?_, fun p hr => ?_⟩
    · obtain ⟨id, created, hget⟩ := Keyed.getTable_of_ok hr ha (wholeSeconds o')
      exact ⟨_, hget, htable ..⟩
    · obtain ⟨id, created, hget⟩ := Keyed.getPartition_of_ok hr ha (wholeSeconds o')
      exact ⟨_, hget, hpartition ..⟩
  | relational =>
    refine ⟨fun t hr => ?_, fun p hr => ?_⟩
    · obtain ⟨id, created, hget⟩ := Relational.getTable_of_ok hr ha (wholeSeconds o'.1) o'.2
      exact ⟨_, hget, htable ..⟩
    · obtain ⟨id, created, hget⟩ := Relational.getPartition_of_ok hr ha (wholeSeconds o'.1) o'.2
      exact ⟨_, hget, hpartition ..⟩

/-- The table `d.t` with a note on its last change that its catalog will overwrite. -/
def notedTable : TableRecord :=
  { keptTable with body := { parameters := Parameters.ofList [(lastChangeKey, "0")] } }

/-- A table that is created at 7 and looked up in a locked catalog at 9: there is nothing to do for
it, but there is for the same table with an owner. -/
theorem accepted_discerned_relational : ∃ stored,
    (Kind.clockedRelational.serve ((9 : Rat), true) (.getTable notedTable.spec)
      (Kind.clockedRelational.serve ((7 : Rat), false) (.createTable notedTable)
        { databases := [("d", DatabaseRecord.document { name := "d" })] }).2).1 =
          .ok (some stored) ∧
      Action.decide (some stored) notedTable = .keep ∧
      Action.decide (some stored) { notedTable with owner := some "o" } = .alter := by
  obtain ⟨stored, hget, h⟩ := (accepted_discerned .relational
    ({ databases := [("d", DatabaseRecord.document { name := "d" })] } : Relational)
    ((7 : Rat), false) ((9 : Rat), true) (.createTable notedTable) () rfl).1 notedTable (.inl rfl)
  refine ⟨stored, hget, h.self, h.alter _ fun heq => ?_⟩
  have howner := ((h.comparable_iff _).1 heq).owner
  cases howner

end CatalogReplication.Catalog
