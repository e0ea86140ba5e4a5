import CatalogReplication.Catalog.Stamping
import CatalogReplication.Proofs.Record.Parameters

/-!
# The comparable part of a record

The comparable part sees a record through its body only, and no stamp changes it. Two records have
one comparable part just if they agree in all that clients write (`TableRecord.comparable_eq_iff`,
`PartitionRecord.comparable_eq_iff`).
-/

namespace CatalogReplication

variable {ρ : Type} [Maintained ρ]

theorem body_comparable (r : ρ) :
    Maintained.body (comparable r) = (Maintained.body r).comparable := by
  unfold comparable
  rw [Maintained.body_withBody]

theorem comparable_withBody (b : Body) (r : ρ) :
    comparable (Maintained.withBody b r) = Maintained.withBody b.comparable r := by
  unfold comparable
  rw [Maintained.body_withBody, Maintained.withBody_withBody]

/-- What a catalog stores has the comparable part of what it was given. -/
theorem comparable_stamp (now id : Int) (created : Option Int) (r : ρ) :
    comparable (Catalog.stamp now id created r) = comparable r := by
  unfold Catalog.stamp
  rw [comparable_withBody]
  unfold comparable
  congr 1
  unfold Catalog.stampBody Body.comparable
  simp only
  rw [Parameters.comparable_insert (by decide)]

/-- Records with one comparable part have one location, and agree in the parameters that clients
write. -/
theorem location_eq_of_comparable_eq {r r' : ρ} (h : comparable r = comparable r') :
    (Maintained.body r).location = (Maintained.body r').location := by
  have hbody := congrArg Maintained.body h
  rw [body_comparable, body_comparable] at hbody
  have hlocation := congrArg Body.location hbody
  exact hlocation

theorem get?_eq_of_comparable_eq {r r' : ρ} (h : comparable r = comparable r') {k : String}
    (hk : maintainedKeys.contains k = false) :
    (Maintained.body r).parameters.get? k = (Maintained.body r').parameters.get? k := by
  have hbody := congrArg Maintained.body h
  rw [body_comparable, body_comparable] at hbody
  have hparameters := congrArg Body.parameters hbody
  exact Parameters.comparable_eq_iff.1 hparameters k hk

/-! ### What is compared -/

/-- Bodies with the same location that agree in every parameter that clients write. -/
structure Body.Agrees (b b' : Body) : Prop where
  location : b.location = b'.location
  parameters : ∀ k, maintainedKeys.contains k = false → b.parameters.get? k = b'.parameters.get? k

/-- Records have one comparable part if they agree beside their bodies, and in their bodies. -/
theorem comparable_eq_iff {r r' : ρ} : comparable r = comparable r' ↔
    Maintained.withBody {} r = Maintained.withBody {} r' ∧
      (Maintained.body r).Agrees (Maintained.body r') := by
  constructor
  · intro h
    have hrest := congrArg (Maintained.withBody {}) h
    unfold comparable at hrest
    rw [Maintained.withBody_withBody, Maintained.withBody_withBody] at hrest
    exact ⟨hrest, location_eq_of_comparable_eq h, fun k => get?_eq_of_comparable_eq h⟩
  · rintro ⟨hrest, hlocation, hparameters⟩
    have hbody : (Maintained.body r).comparable = (Maintained.body r').comparable := by
      unfold Body.comparable
      rw [hlocation, Parameters.comparable_eq_iff.2 hparameters]
    calc comparable r
        = Maintained.withBody (Maintained.body r).comparable (Maintained.withBody {} r) :=
          (Maintained.withBody_withBody _ _ r).symm
      _ = Maintained.withBody (Maintained.body r').comparable (Maintained.withBody {} r') := by
          rw [hrest, hbody]
      _ = comparable r' := Maintained.withBody_withBody _ _ r'

/-- Tables that agree in all but what their catalogs write. -/
structure TableRecord.Agrees (t t' : TableRecord) : Prop where
  database : t.database = t'.database
  name : t.name = t'.name
  columns : t.columns = t'.columns
  partitionKeys : t.partitionKeys = t'.partitionKeys
  storageFormat : t.storageFormat = t'.storageFormat
  tableType : t.tableType = t'.tableType
  owner : t.owner = t'.owner
  body : t.body.Agrees t'.body

theorem TableRecord.comparable_eq_iff {t t' : TableRecord} :
    comparable t = comparable t' ↔ t.Agrees t' := by
  rw [CatalogReplication.comparable_eq_iff]
  constructor
  · rintro ⟨hrest, hbody⟩
    obtain ⟨h₁, h₂, h₃, h₄, h₅, h₆, h₇, -⟩ := TableRecord.mk.inj hrest
    exact ⟨h₁, h₂, h₃, h₄, h₅, h₆, h₇, hbody⟩
  · intro h
    refine ⟨?_, h.body⟩
    exact (TableRecord.mk.injEq ..).mpr ⟨h.database, h.name, h.columns, h.partitionKeys,
      h.storageFormat, h.tableType, h.owner, rfl⟩

/-- Partitions that agree in all but what their catalogs write. -/
structure PartitionRecord.Agrees (p p' : PartitionRecord) : Prop where
  database : p.database = p'.database
  table : p.table = p'.table
  name : p.name = p'.name
  values : p.values = p'.values
  storageFormat : p.storageFormat = p'.storageFormat
  body : p.body.Agrees p'.body

theorem PartitionRecord.comparable_eq_iff {p p' : PartitionRecord} :
    comparable p = comparable p' ↔ p.Agrees p' := by
  rw [CatalogReplication.comparable_eq_iff]
  constructor
  · rintro ⟨hrest, hbody⟩
    obtain ⟨h₁, h₂, h₃, h₄, h₅, -⟩ := PartitionRecord.mk.inj hrest
    exact ⟨h₁, h₂, h₃, h₄, h₅, hbody⟩
  · intro h
    refine ⟨?_, h.body⟩
    exact (PartitionRecord.mk.injEq ..).mpr ⟨h.database, h.table, h.name, h.values,
      h.storageFormat, rfl⟩

/-! ### What has to happen -/

variable [DecidableEq ρ]

theorem Action.decide_eq_create_iff {existing : Option ρ} {x : ρ} :
    Action.decide existing x = .create ↔ existing = none := by
  cases existing with
  | none => simp [decide]
  | some r =>
    unfold decide
    simp only
    split <;> simp

theorem Action.decide_eq_keep_iff {existing : Option ρ} {x : ρ} :
    Action.decide existing x = .keep ↔ ∃ r, existing = some r ∧ comparable r = comparable x := by
  cases existing with
  | none => simp [decide]
  | some r =>
    unfold decide
    simp only
    split <;> simp [*]

/-- What is there and isn't as expected is altered. -/
theorem Action.decide_eq_alter {r x : ρ} (h : comparable r ≠ comparable x) :
    Action.decide (some r) x = .alter := if_neg h

end CatalogReplication
