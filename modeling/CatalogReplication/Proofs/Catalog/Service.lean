import CatalogReplication.Catalog.Keyed
import CatalogReplication.Proofs.Catalog.View

/-!
# Catalogs as services

A service is any catalog that keeps to the common contract: it answers by what it holds, a rejected
request and a look-up leave it as it is, and a table is found under its own spec. A keyed catalog is
one (`keyed`), in every state that requests lead to.
-/

namespace CatalogReplication.Catalog

/-- A catalog that keeps to the contract. -/
structure Service where
  State : Type
  /-- What is held in a state. -/
  view : State → View
  serve : Int → (r : Request) → State → Except Failure r.Answer × State
  rejects : ∀ {now : Int} {r : Request} {s : State} {e : Error},
    (view s).rejection? r = some e → serve now r s = (.error (.catalog e), s)
  accepts : ∀ {now : Int} {r : Request} {s : State}, (view s).rejection? r = none →
    ∃ a, (serve now r s).1 = .ok a ∧ (view s).Accepts now r a (view (serve now r s).2)
  looks : ∀ {now : Int} {r : Request} {s : State}, r.isLookup = true → (serve now r s).2 = s
  table_spec : ∀ {s : State} {k : Spec} {t : TableRecord}, (view s).table k = some t → t.spec = k

/-! ### Keyed catalogs -/

namespace Keyed

/-- The content of a keyed catalog. -/
def view (c : Keyed) : View where
  database name := c.databases.lookup name
  table k := c.tables.lookup k
  partition k := c.partitions.lookup k

theorem lookup_put {κ α : Type} [BEq κ] [LawfulBEq κ] [DecidableEq κ] (k : κ) (v : α)
    (m : Assoc κ α) :
    (fun k' => (Assoc.put k v m).lookup k') =
      Function.update (fun k' => m.lookup k') k (some v) := by
  funext k'
  by_cases h : k' = k
  · subst h
    rw [Assoc.lookup_put_self, Function.update_self]
  · rw [Assoc.lookup_put_of_ne h, Function.update_of_ne h]

/-- A catalog that keeps its tables under their own specs. -/
theorem named_of_tables {c : Keyed} (h : ∀ e ∈ c.tables, e.2.spec = e.1) : c.view.Named :=
  fun k t ht => h (k, t) (Assoc.mem_of_lookup ht)

theorem hasKey_eq_isSome {κ α : Type} [BEq κ] (k : κ) (m : Assoc κ α) :
    Assoc.hasKey k m = (m.lookup k).isSome := rfl

theorem serve_rejects (now : Int) {r : Request} {c : Keyed} {e : Error}
    (h : c.view.rejection? r = some e) : c.serve now r = (.error (.catalog e), c) := by
  cases r with
  | getDatabase name => cases h
  | createDatabaseIfAbsent d => cases h
  | getTable k => cases h
  | getPartition k => cases h
  | listPartitionNames k => cases h
  | createTable t =>
    show c.changed (c.createTable now t) = _
    unfold createTable
    rw [hasKey_eq_isSome, hasKey_eq_isSome]
    simp only [View.rejection?, view] at h
    cases hd : c.databases.lookup t.database <;> cases ht : c.tables.lookup t.spec <;>
      simp_all [changed]
  | alterTable t =>
    show c.changed (c.alterTable now t) = _
    unfold alterTable
    simp only [View.rejection?, view] at h
    cases ht : c.tables.lookup t.spec <;> simp_all [changed]
  | addPartition p =>
    show c.changed (c.addPartition now p) = _
    unfold addPartition
    rw [hasKey_eq_isSome, hasKey_eq_isSome]
    simp only [View.rejection?, view] at h
    cases hd : c.tables.lookup p.spec.tableSpec <;> cases ht : c.partitions.lookup p.spec <;>
      simp_all [changed]
  | alterPartition k p =>
    show c.changed (c.alterPartition now k p) = _
    unfold alterPartition
    simp only [View.rejection?, view] at h
    cases ht : c.partitions.lookup k <;> simp_all [changed]

theorem serve_accepts (now : Int) {r : Request} {c : Keyed} (h : c.view.rejection? r = none) :
    ∃ a, (c.serve now r).1 = .ok a ∧ c.view.Accepts now r a (c.serve now r).2.view := by
  cases r with
  | getDatabase name => exact ⟨_, rfl, rfl, rfl⟩
  | getTable k => exact ⟨_, rfl, rfl, rfl⟩
  | getPartition k => exact ⟨_, rfl, rfl, rfl⟩
  | listPartitionNames k => exact ⟨_, rfl, rfl⟩
  | createDatabaseIfAbsent d =>
    cases hd : c.databases.lookup d.name with
    | none =>
      have hserve : c.serve now (.createDatabaseIfAbsent d) =
          (.ok true, { c with databases := Assoc.put d.name d c.databases }) := by
        simp [serve, hasKey_eq_isSome, hd]
      rw [hserve]
      exact ⟨true, rfl, by simp [view, hd],
        by simp [View.ensureDatabase, View.putDatabase, view, hd, lookup_put]⟩
    | some d' =>
      have hserve : c.serve now (.createDatabaseIfAbsent d) = (.ok false, c) := by
        simp [serve, hasKey_eq_isSome, hd]
      rw [hserve]
      exact ⟨false, rfl, by simp [view, hd], by simp [View.ensureDatabase, view, hd]⟩
  | createTable t =>
    obtain ⟨hd, ht⟩ := View.createTable_accepted.1 h
    simp only [view] at hd ht
    have hserve : c.serve now (.createTable t) = c.changed (c.createTable now t) := rfl
    rw [hserve, createTable, hasKey_eq_isSome, hasKey_eq_isSome, hd, ht]
    exact ⟨(), rfl, (c.lastId + 1 : Nat), View.ext rfl (lookup_put _ _ _) rfl⟩
  | alterTable t =>
    obtain ⟨stored, ht⟩ := Option.isSome_iff_exists.1 (View.alterTable_accepted.1 h)
    simp only [view] at ht
    have hserve : c.serve now (.alterTable t) = c.changed (c.alterTable now t) := rfl
    rw [hserve, alterTable, ht]
    exact ⟨(), rfl, _, _, View.ext rfl (lookup_put _ _ _) rfl⟩
  | addPartition p =>
    obtain ⟨ht, hp⟩ := View.addPartition_accepted.1 h
    simp only [view] at ht hp
    have hserve : c.serve now (.addPartition p) = c.changed (c.addPartition now p) := rfl
    rw [hserve, addPartition, hasKey_eq_isSome, hasKey_eq_isSome, ht, hp]
    exact ⟨(), rfl, (c.lastId + 1 : Nat), View.ext rfl rfl (lookup_put _ _ _)⟩
  | alterPartition k p =>
    obtain ⟨stored, hp⟩ := Option.isSome_iff_exists.1 (View.alterPartition_accepted.1 h)
    simp only [view] at hp
    have hserve : c.serve now (.alterPartition k p) = c.changed (c.alterPartition now k p) := rfl
    rw [hserve, alterPartition, hp]
    exact ⟨(), rfl, _, _, View.ext rfl rfl (lookup_put _ _ _)⟩

theorem serve_looks {now : Int} {r : Request} {c : Keyed} (h : r.isLookup = true) :
    (c.serve now r).2 = c := by
  cases r <;> first | rfl | cases h

theorem named_serve {now : Int} {r : Request} {c : Keyed} (h : c.view.Named) :
    (c.serve now r).2.view.Named := by
  cases hr : c.view.rejection? r with
  | some e =>
    rw [serve_rejects now hr]
    exact h
  | none =>
    obtain ⟨a, -, hv⟩ := serve_accepts now hr
    exact h.accepts hv

end Keyed

/-- Keyed catalogs keep to the contract. -/
def keyed : Service where
  State := { c : Keyed // c.view.Named }
  view s := s.1.view
  serve now r s := ((s.1.serve now r).1, ⟨(s.1.serve now r).2, Keyed.named_serve s.2⟩)
  rejects {now r s e} h := by
    have hs := Keyed.serve_rejects now h
    simp only [hs]
  accepts h := Keyed.serve_accepts _ h
  looks h := Subtype.ext (Keyed.serve_looks h)
  table_spec {s k t} h := s.2 k t h

end CatalogReplication.Catalog
