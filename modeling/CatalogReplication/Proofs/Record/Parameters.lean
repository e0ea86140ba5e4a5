import CatalogReplication.Proofs.Assoc
import CatalogReplication.Record.Comparable

/-!
# Parameters as finite maps

Parameters are known by what they answer to look-ups: equal answers make equal parameters
(`Parameters.ext_get?`), and filtering, the comparable part among it, is a filter on the answers.
-/

namespace CatalogReplication.Parameters

theorem nodup_keys (p : Parameters) : (Assoc.keys p.entries).Nodup := by
  refine List.pairwise_map.2 (p.ordered.imp fun hlt heq => ?_)
  exact String.lt_irrefl _ (heq ▸ hlt)

theorem nodup_entries (p : Parameters) : p.entries.Nodup := p.nodup_keys.of_map _

theorem get?_eq_some_iff {p : Parameters} {k v : String} :
    p.get? k = some v ↔ (k, v) ∈ p.entries := Assoc.lookup_eq_some_iff_mem p.nodup_keys

/-- **Extensionality**: parameters that answer every look-up alike are equal. -/
theorem ext_get? {p q : Parameters} (h : ∀ k, p.get? k = q.get? k) : p = q := by
  have hmem : ∀ e, e ∈ p.entries ↔ e ∈ q.entries := fun e => by
    rw [← get?_eq_some_iff, ← get?_eq_some_iff, h]
  have hperm : p.entries.Perm q.entries :=
    (List.perm_ext_iff_of_nodup (nodup_entries p) (nodup_entries q)).2 hmem
  have hentries : p.entries = q.entries :=
    hperm.eq_of_pairwise
      (fun a b _ _ hab hba => absurd (String.lt_trans hab hba) (String.lt_irrefl _))
      p.ordered q.ordered
  obtain ⟨l, hl⟩ := p
  obtain ⟨l', hl'⟩ := q
  subst hentries
  rfl

theorem get?_filter (keep : String → String → Bool) (p : Parameters) (k : String) :
    (p.filter keep).get? k = (p.get? k).filter (keep k) := by
  apply Option.ext
  intro v
  rw [get?_eq_some_iff]
  simp only [filter, List.mem_filter, Option.filter_eq_some_iff, get?_eq_some_iff]

/-- The comparable part answers for the keys that clients write. -/
theorem get?_comparable (p : Parameters) (k : String) :
    p.comparable.get? k = if maintainedKeys.contains k then none else p.get? k := by
  unfold comparable
  rw [get?_filter]
  cases maintainedKeys.contains k <;> cases p.get? k <;> simp [Option.filter]

theorem comparable_eq_iff {p q : Parameters} :
    p.comparable = q.comparable ↔
      ∀ k, maintainedKeys.contains k = false → p.get? k = q.get? k := by
  constructor
  · intro h k hk
    have hget := congrArg (fun r => get? k r) h
    simpa only [get?_comparable, hk, Bool.false_eq_true, if_false] using hget
  · intro h
    refine ext_get? fun k => ?_
    rw [get?_comparable, get?_comparable]
    split
    · rfl
    · rename_i hk
      exact h k (Bool.not_eq_true _ ▸ hk)

/-- What a catalog writes is no part of the comparison. -/
theorem comparable_insert {k : String} (hk : maintainedKeys.contains k = true) (v : String)
    (p : Parameters) : (p.insert k v).comparable = p.comparable := by
  rw [comparable_eq_iff]
  intro k' hk'
  rw [get?_insert, if_neg]
  rintro rfl
  rw [hk] at hk'
  exact Bool.noConfusion hk'

end CatalogReplication.Parameters
