import CatalogReplication.Proofs.Lock.Exclusion
import CatalogReplication.Proofs.Spec

/-!
# Which tasks exclude each other

Two lock sets are in conflict if both ask for one key, and at least one of them exclusively: then
they can't be held at the same time by two holders. The locks of two objects are in conflict just
when the objects are one, or when they belong to one table and one of them is that table itself.

Keys are texts, so this rests on what texts tell apart: no two specs that can be read have one text
(`Spec.WellFormed.text_injective`), and the key of a table is never the key of a partition, since
the first has no slash.
-/

namespace CatalogReplication

namespace Lock.LockSet

/-- Two holders can't hold both sets at the same time. -/
def Conflicts (a b : LockSet) : Prop :=
  ∃ r ∈ a.requirements, ∃ r' ∈ b.requirements,
    r.key = r'.key ∧ (r.kind = .exclusive ∨ r'.kind = .exclusive)

instance : DecidableRel Conflicts := fun a b => by unfold Conflicts; infer_instance

theorem Conflicts.symm {a b : LockSet} (h : a.Conflicts b) : b.Conflicts a := by
  obtain ⟨r, hr, r', hr', hkey, hkind⟩ := h
  exact ⟨r', hr', r, hr, hkey.symm, hkind.symm⟩

end Lock.LockSet

namespace Spec

open Lock

/-- Replicating one object has to exclude replicating the other one. -/
def Excludes (s s' : Spec) : Prop :=
  s = s' ∨ s.tableSpec = s'.tableSpec ∧ (s.isPartition = false ∨ s'.isPartition = false)

instance : DecidableRel Excludes := fun s s' => by unfold Excludes; infer_instance

/-- The locks of an object one by one, the table before the partition. -/
theorem requirements_requiredLocks (s : Spec) : s.requiredLocks.requirements =
    if s.isPartition then [⟨.shared, s.tableSpec.text⟩, ⟨.exclusive, s.text⟩]
    else [⟨.exclusive, s.tableSpec.text⟩] := by
  unfold requiredLocks
  cases hp : s.isPartition with
  | false => rfl
  | true =>
    have hbefore : Requirement.Before ⟨.shared, s.tableSpec.text⟩ ⟨.exclusive, s.text⟩ :=
      .inl (text_tableSpec_lt hp)
    exact if_pos hbefore

/-- No key stands twice among the locks of an object. -/
theorem nodup_keys_requiredLocks (s : Spec) :
    (s.requiredLocks.requirements.map Requirement.key).Nodup := by
  rw [requirements_requiredLocks]
  cases hp : s.isPartition with
  | false => simp
  | true => simpa using (text_tableSpec_lt hp).ne

variable {s s' : Spec}

theorem mem_requiredLocks {r : Requirement} : r ∈ s.requiredLocks.requirements ↔
    s.isPartition = false ∧ r = ⟨.exclusive, s.tableSpec.text⟩ ∨
      s.isPartition = true ∧ (r = ⟨.shared, s.tableSpec.text⟩ ∨ r = ⟨.exclusive, s.text⟩) := by
  rw [requirements_requiredLocks]
  cases s.isPartition <;> simp

theorem Excludes.conflicts (h : s.Excludes s') : s.requiredLocks.Conflicts s'.requiredLocks := by
  rcases h with rfl | ⟨htable, hs | hs'⟩
  · obtain ⟨k, kind, hmem, hmem'⟩ := requiredLocks_exclude (.inl (.refl s))
    exact ⟨_, hmem, _, hmem', rfl, .inl rfl⟩
  · obtain ⟨k, kind, hmem, hmem'⟩ := requiredLocks_exclude (.inr ⟨hs, htable.symm⟩)
    exact ⟨_, hmem, _, hmem', rfl, .inl rfl⟩
  · obtain ⟨k, kind, hmem, hmem'⟩ := requiredLocks_exclude (.inr ⟨hs', htable⟩)
    exact ⟨_, hmem', _, hmem, rfl, .inr rfl⟩

namespace WellFormed

theorem tableSpec (h : s.WellFormed) : s.tableSpec.WellFormed :=
  { h with partition_ne := by simp [Spec.tableSpec] }

/-- The key of a table is not the key of a partition, of whatever table. -/
theorem text_tableSpec_ne_text (h : s.WellFormed) (hp : s'.isPartition = true) :
    s.tableSpec.text ≠ s'.text := by
  obtain ⟨p, hp⟩ := Option.isSome_iff_exists.1 hp
  intro htext
  apply h.slash_not_mem_text_tableSpec
  rw [htext, toList_text_of_partition hp]
  exact List.mem_append_right _ List.mem_cons_self

theorem tableSpec_eq (h : s.WellFormed) (h' : s'.WellFormed)
    (ht : s.tableSpec.text = s'.tableSpec.text) : s.tableSpec = s'.tableSpec :=
  h.tableSpec.text_injective h'.tableSpec ht

theorem excludes_of_conflicts (h : s.WellFormed) (h' : s'.WellFormed)
    (hc : s.requiredLocks.Conflicts s'.requiredLocks) : s.Excludes s' := by
  obtain ⟨r, hr, r', hr', hkey, hkind⟩ := hc
  rcases mem_requiredLocks.1 hr with ⟨hs, rfl⟩ | ⟨hs, rfl | rfl⟩ <;>
    rcases mem_requiredLocks.1 hr' with ⟨hs', rfl⟩ | ⟨hs', rfl | rfl⟩
  -- A table against a table, the table of a partition, a partition.
  · exact .inr ⟨h.tableSpec_eq h' hkey, .inl hs⟩
  · exact .inr ⟨h.tableSpec_eq h' hkey, .inl hs⟩
  · exact absurd hkey (h.text_tableSpec_ne_text hs')
  -- The table of a partition.
  · exact .inr ⟨h.tableSpec_eq h' hkey, .inr hs'⟩
  · rcases hkind with hkind | hkind <;> cases hkind
  · exact absurd hkey (h.text_tableSpec_ne_text hs')
  -- A partition.
  · exact absurd hkey.symm (h'.text_tableSpec_ne_text hs)
  · exact absurd hkey.symm (h'.text_tableSpec_ne_text hs)
  · exact .inl (h.text_injective h' hkey)

end WellFormed

/-- Locks are in conflict just for the tasks that have to exclude each other: for objects that can
be named by a text, the locks of two of them are in conflict if and only if the objects are one, or
belong to one table of which one of them is the whole; so partitions of one table are not in
conflict, nor are objects of different tables or databases. And for every object no key stands
twice among its locks, and the lock of the table is taken before the one of the partition. -/
theorem requiredLocks_conflicts :
    (∀ t t' s s', parse t = .ok s → parse t' = .ok s' →
      (s.requiredLocks.Conflicts s'.requiredLocks ↔ s.Excludes s') ∧
      (s.isPartition = true → s'.isPartition = true → s ≠ s' →
        ¬ s.requiredLocks.Conflicts s'.requiredLocks) ∧
      (s.table ≠ s'.table ∨ s.database ≠ s'.database →
        ¬ s.requiredLocks.Conflicts s'.requiredLocks)) ∧
    ∀ s : Spec, (s.requiredLocks.requirements.map Requirement.key).Nodup ∧
      s.requiredLocks.requirements =
        if s.isPartition then [⟨.shared, s.tableSpec.text⟩, ⟨.exclusive, s.text⟩]
        else [⟨.exclusive, s.tableSpec.text⟩] := by
  refine ⟨fun t t' s s' hs hs' => ?_,
    fun s => ⟨nodup_keys_requiredLocks s, requirements_requiredLocks s⟩⟩
  have hiff : s.requiredLocks.Conflicts s'.requiredLocks ↔ s.Excludes s' :=
    ⟨(wellFormed_of_parse hs).excludes_of_conflicts (wellFormed_of_parse hs'), Excludes.conflicts⟩
  refine ⟨hiff, fun hp hp' hne hc => ?_, fun hne hc => ?_⟩
  · rcases hiff.1 hc with rfl | ⟨-, hpart | hpart⟩
    · exact hne rfl
    · exact absurd (hp.symm.trans hpart) (by decide)
    · exact absurd (hp'.symm.trans hpart) (by decide)
  · have htable : s.tableSpec = s'.tableSpec := by
      rcases hiff.1 hc with rfl | ⟨htable, -⟩
      · rfl
      · exact htable
    rcases hne with hne | hne
    · exact hne (Spec.mk.inj htable).2.1
    · exact hne (Spec.mk.inj htable).1

/-- Conflicts among objects whose names have points and slashes: a partition is in conflict with its
table, and not with the partition whose name begins its own. -/
theorem requiredLocks_conflicts_sample : ∃ part part' table : Spec,
    parse "d.t.u/ds=1/hr.0" = .ok part ∧ parse "d.t.u/ds=1" = .ok part' ∧
    parse "d.t.u" = .ok table ∧
    part.requiredLocks.Conflicts table.requiredLocks ∧
    ¬ part.requiredLocks.Conflicts part'.requiredLocks := by
  have hpart : parse "d.t.u/ds=1/hr.0" =
      .ok { database := "d", table := "t.u", partition := some "ds=1/hr.0" } := rfl
  have hpart' : parse "d.t.u/ds=1" =
      .ok { database := "d", table := "t.u", partition := some "ds=1" } := rfl
  have htable : parse "d.t.u" = .ok { database := "d", table := "t.u" } := rfl
  refine ⟨_, _, _, hpart, hpart', htable, ?_, ?_⟩
  · exact (requiredLocks_conflicts.1 _ _ _ _ hpart htable).1.2 (by decide)
  · exact (requiredLocks_conflicts.1 _ _ _ _ hpart hpart').2.1 rfl rfl (by decide)

end Spec

end CatalogReplication
