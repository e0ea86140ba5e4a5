import CatalogReplication.Assoc
import Mathlib.Data.List.Nodup

/-!
# Keyed lists with one entry a key

Where no key has two entries, a keyed list is told by its keys and by what the look-up answers
(`Assoc.ext_lookup`).
-/

namespace CatalogReplication.Assoc

variable {κ α : Type} [BEq κ] [LawfulBEq κ]

/-- Entries that are kept or dropped by their keys. -/
theorem lookup_filter (keep : κ → Bool) (k : κ) (m : Assoc κ α) :
    (m.filter fun e => keep e.1).lookup k = if keep k then m.lookup k else none := by
  induction m with
  | nil => simp
  | cons e rest ih =>
    obtain ⟨k', v⟩ := e
    by_cases hk : k = k'
    · subst hk
      by_cases hkeep : keep k <;> simp [hkeep, ih]
    · have hb : (k == k') = false := beq_eq_false_iff_ne.2 hk
      by_cases hkeep : keep k' <;> simp [hkeep, List.lookup_cons, hb, ih]

theorem keys_map {ι β γ : Type} (f : β → γ) (m : Assoc ι β) :
    keys (m.map fun e => (e.1, f e.2)) = keys m := by
  simp [keys, Function.comp_def]

/-- Entries whose values are replaced by what is read off them. -/
theorem lookup_map {β : Type} (f : α → β) (k : κ) (m : Assoc κ α) :
    List.lookup k (m.map fun e => (e.1, f e.2)) = (m.lookup k).map f := by
  induction m with
  | nil => rfl
  | cons e rest ih =>
    obtain ⟨k', v⟩ := e
    by_cases hk : k = k'
    · subst hk
      simp
    · have hb : (k == k') = false := beq_eq_false_iff_ne.2 hk
      simp [List.lookup_cons, hb, ih]

/-- With one entry a key, the look-up finds the entries. -/
theorem lookup_eq_some_iff_mem {m : Assoc κ α} (h : (keys m).Nodup) {k : κ} {v : α} :
    m.lookup k = some v ↔ (k, v) ∈ m := by
  induction m with
  | nil => simp
  | cons e rest ih =>
    obtain ⟨k', v'⟩ := e
    obtain ⟨hnew, hrest⟩ := List.nodup_cons.1 h
    by_cases hk : k = k'
    · subst hk
      have hnotMem : (k, v) ∉ rest := fun hmem => hnew (List.mem_map.2 ⟨_, hmem, rfl⟩)
      simp [hnotMem, eq_comm]
    · have hb : (k == k') = false := beq_eq_false_iff_ne.2 hk
      simp [List.lookup_cons, hb, hk, ih hrest]

theorem isSome_lookup_iff {k : κ} {m : Assoc κ α} : (m.lookup k).isSome = true ↔ k ∈ keys m :=
  hasKey_iff_mem_keys

theorem lookup_eq_none_iff {k : κ} {m : Assoc κ α} : m.lookup k = none ↔ k ∉ keys m := by
  rw [← isSome_lookup_iff, Option.not_isSome_iff_eq_none]

/-- The same entries in the same order. -/
theorem ext_lookup {m m' : Assoc κ α} (hkeys : keys m = keys m') (hnodup : (keys m).Nodup)
    (h : ∀ k, m.lookup k = m'.lookup k) : m = m' := by
  induction m generalizing m' with
  | nil => exact (List.map_eq_nil_iff.1 hkeys.symm).symm
  | cons e rest ih =>
    obtain ⟨k, v⟩ := e
    obtain - | ⟨⟨k', v'⟩, rest'⟩ := m'
    · cases hkeys
    · obtain ⟨rfl, hkeys'⟩ : k = k' ∧ keys rest = keys rest' := List.cons.inj hkeys
      obtain ⟨hnew, hrest⟩ : k ∉ keys rest ∧ (keys rest).Nodup := List.nodup_cons.1 hnodup
      have hv : v = v' := by simpa using h k
      have hlookup : ∀ k', rest.lookup k' = rest'.lookup k' := fun k' => by
        by_cases hk : k' = k
        · subst hk
          rw [lookup_eq_none_iff.2 hnew, lookup_eq_none_iff.2 (hkeys' ▸ hnew)]
        · have hb : (k' == k) = false := beq_eq_false_iff_ne.2 hk
          simpa [List.lookup_cons, hb] using h k'
      rw [hv, ih hkeys' hrest hlookup]

/-! ### Taking back what was put -/

/-- Only the last value of a key that is put counts. -/
theorem put_put (k : κ) (v v' : α) (m : Assoc κ α) : put k v (put k v' m) = put k v m := by
  induction m with
  | nil => simp [put]
  | cons e rest ih =>
    obtain ⟨k', w⟩ := e
    by_cases hk : k' = k
    · simp [put, hk]
    · simp [put, hk, ih]

theorem put_of_lookup {k : κ} {v : α} {m : Assoc κ α} (h : m.lookup k = some v) :
    put k v m = m := by
  induction m with
  | nil => cases h
  | cons e rest ih =>
    obtain ⟨k', w⟩ := e
    by_cases hk : k' = k
    · subst hk
      have hw : w = v := by simpa using h
      simp [put, hw]
    · have hb : (k == k') = false := beq_eq_false_iff_ne.2 (Ne.symm hk)
      have hrest : rest.lookup k = some v := by simpa [List.lookup_cons, hb] using h
      simp [put, hk, ih hrest]

theorem erase_put {k : κ} {m : Assoc κ α} (h : m.lookup k = none) (v : α) :
    erase k (put k v m) = m := by
  have hnew : k ∉ keys m := lookup_eq_none_iff.1 h
  have hkept : ∀ e ∈ m, (!(e.1 == k)) = true := by
    intro e he
    have hne : e.1 ≠ k := fun heq => hnew (List.mem_map.2 ⟨e, he, heq⟩)
    simpa using hne
  rw [put_of_not_mem hnew, erase, List.filter_append, List.filter_eq_self.2 hkept]
  simp
/-! ### The keys of one list after those of another -/

/-- Some keys, and behind them those others that are not among them. -/
def joinKeys (ks ls : List κ) : List κ := ks ++ ls.filter fun k => !ks.contains k

theorem mem_joinKeys {ks ls : List κ} {k : κ} : k ∈ joinKeys ks ls ↔ k ∈ ks ∨ k ∈ ls := by
  by_cases h : k ∈ ks <;> simp [joinKeys, h]

theorem nodup_joinKeys {ks ls : List κ} (hk : ks.Nodup) (hl : ls.Nodup) :
    (joinKeys ks ls).Nodup := by
  refine List.nodup_append.2 ⟨hk, hl.filter _, fun a ha b hb hab => ?_⟩
  subst hab
  simp [ha] at hb

theorem joinKeys_assoc (ks ls ms : List κ) :
    joinKeys (joinKeys ks ls) ms = joinKeys ks (joinKeys ls ms) := by
  have hms : (ms.filter fun k => !(joinKeys ks ls).contains k) =
      (ms.filter fun k => !ls.contains k).filter fun k => !ks.contains k := by
    rw [List.filter_filter]
    refine List.filter_congr fun k _ => ?_
    simp [mem_joinKeys]
  rw [joinKeys, hms, joinKeys, joinKeys, joinKeys, List.filter_append, List.append_assoc]

end CatalogReplication.Assoc
