import CatalogReplication.Proofs.Value.Path
import Mathlib.Data.List.Forall2

/-!
# Values up to the order of entries

Two values are alike if nothing but the order of the entries in their mappings tells them apart
(`Value.Alike`). A value is exact if there are no decimal numbers in it and no mapping has two
entries for a key (`Value.IsExact`), and what is like an exact value is exact
(`Value.Alike.isExact`). What stands under the keys of like mappings is alike, and what is neither
a list nor a mapping is only like itself.
-/

namespace CatalogReplication.Value

/-- A value without decimal numbers in which no mapping has two entries for a key. -/
inductive IsExact : Value → Prop where
  | null : IsExact .null
  | bool (b : Bool) : IsExact (.bool b)
  | int (n : Int) : IsExact (.int n)
  | text (s : String) : IsExact (.text s)
  | list {items : List Value} (h : ∀ v ∈ items, IsExact v) : IsExact (.list items)
  | map {fields : List (String × Value)} (hkeys : (Assoc.keys fields).Nodup)
      (h : ∀ e ∈ fields, IsExact e.2) : IsExact (.map fields)

/-- Values that are equal up to the order of the entries in mappings. -/
inductive Alike : Value → Value → Prop where
  | refl (v : Value) : Alike v v
  | list {items items' : List Value} (hlength : items.length = items'.length)
      (h : ∀ i (hi : i < items.length) (hi' : i < items'.length), Alike items[i] items'[i]) :
      Alike (.list items) (.list items')
  | map {fields fields' : List (String × Value)}
      (hkeys : (Assoc.keys fields).Perm (Assoc.keys fields'))
      (h : ∀ {k v v'}, fields.lookup k = some v → fields'.lookup k = some v' → Alike v v') :
      Alike (.map fields) (.map fields')

variable {v w : Value} {items : List Value} {fields fields' : List (String × Value)} {k : String}

/-! ### Exact values -/

theorem isExact_ofText? (s : Option String) : (ofText? s).IsExact := by
  cases s with
  | none => exact .null
  | some s => exact .text s

theorem isExact_ofInt? (n : Option Int) : (ofInt? n).IsExact := by
  cases n with
  | none => exact .null
  | some n => exact .int n

theorem isExact_texts (ss : List String) : (texts ss).IsExact := by
  refine .list fun v hv => ?_
  obtain ⟨s, -, rfl⟩ := List.mem_map.1 hv
  exact .text s

/-- What is like an exact value is exact. -/
theorem Alike.isExact (h : v.Alike w) (hw : w.IsExact) : v.IsExact := by
  induction h with
  | refl v => exact hw
  | @list items items' hlength _ ih =>
    cases hw with
    | list hitems =>
      refine .list fun v hv => ?_
      obtain ⟨i, hi, rfl⟩ := List.getElem_of_mem hv
      exact ih i hi (hlength ▸ hi) (hitems _ (List.getElem_mem _))
  | @map fields fields' hkeys _ ih =>
    cases hw with
    | map hnodup hfields =>
      have hnodup' : (Assoc.keys fields).Nodup := hkeys.nodup_iff.2 hnodup
      refine .map hnodup' fun e he => ?_
      obtain ⟨⟨k, v'⟩, hmem, hk : k = e.1⟩ :=
        List.mem_map.1 (hkeys.mem_iff.1 (List.mem_map_of_mem he))
      subst hk
      exact ih ((Assoc.lookup_eq_some_iff_mem hnodup').2 he)
        ((Assoc.lookup_eq_some_iff_mem hnodup).2 hmem) (hfields _ hmem)

/-! ### What like values have in common -/

/-- A value that nothing but itself is like. -/
def IsRigid (w : Value) : Prop := ∀ {v : Value}, v.Alike w → v = w

theorem isRigid_text (s : String) : (text s).IsRigid := by
  intro v h
  cases h
  rfl

theorem isRigid_ofText? (s : Option String) : (ofText? s).IsRigid := by
  intro v h
  cases s <;> cases h <;> rfl

theorem isRigid_ofInt? (n : Option Int) : (ofInt? n).IsRigid := by
  intro v h
  cases n <;> cases h <;> rfl

/-- What is like a list is a list of like items. -/
theorem Alike.exists_list (h : v.Alike (.list items)) :
    ∃ items', v = .list items' ∧ List.Forall₂ Alike items' items := by
  cases h with
  | refl => exact ⟨items, rfl, List.forall₂_same.2 fun v _ => .refl v⟩
  | list hlength h => exact ⟨_, rfl, List.forall₂_iff_get.2 ⟨hlength, h⟩⟩

theorem eq_of_forall₂_alike {items' : List Value} (hrigid : ∀ w ∈ items, w.IsRigid)
    (h : List.Forall₂ Alike items' items) : items' = items := by
  induction h with
  | nil => rfl
  | cons hv _ ih =>
    obtain ⟨hw, hrest⟩ := List.forall_mem_cons.1 hrigid
    rw [hw hv, ih hrest]

theorem isRigid_texts (ss : List String) : (texts ss).IsRigid := by
  intro v h
  obtain ⟨items, rfl, hitems⟩ := h.exists_list
  refine congrArg Value.list (eq_of_forall₂_alike (fun w hw => ?_) hitems)
  obtain ⟨s, -, rfl⟩ := List.mem_map.1 hw
  exact isRigid_text s

/-- The order of the entries doesn't matter. -/
theorem Alike.of_perm (hkeys : (Assoc.keys fields').Nodup) (h : fields.Perm fields') :
    (Value.map fields).Alike (.map fields') := by
  refine .map (h.map _) fun {k v v'} hv hv' => ?_
  have hv₁ : fields'.lookup k = some v :=
    (Assoc.lookup_eq_some_iff_mem hkeys).2 (h.mem_iff.1 (Assoc.mem_of_lookup hv))
  obtain rfl : v = v' := Option.some.inj (hv₁.symm.trans hv')
  exact .refl v

/-- What is like a mapping is a mapping. -/
theorem Alike.exists_map (h : v.Alike (.map fields)) : ∃ fields', v = .map fields' := by
  cases h with
  | refl => exact ⟨_, rfl⟩
  | map => exact ⟨_, rfl⟩

theorem Alike.perm_keys (h : (Value.map fields).Alike (.map fields')) :
    (Assoc.keys fields).Perm (Assoc.keys fields') := by
  cases h with
  | refl => exact .refl _
  | map hkeys _ => exact hkeys

/-- What stands under a key of one mapping is like what stands there in the other. -/
theorem Alike.exists_lookup (h : (Value.map fields).Alike (.map fields'))
    (hk : fields'.lookup k = some w) : ∃ v, fields.lookup k = some v ∧ v.Alike w := by
  cases h with
  | refl => exact ⟨w, hk, .refl w⟩
  | map hkeys h =>
    have hmem : k ∈ Assoc.keys fields := by
      rw [hkeys.mem_iff, ← Assoc.isSome_lookup_iff, hk]
      rfl
    obtain ⟨v, hv⟩ := Option.isSome_iff_exists.1 (Assoc.isSome_lookup_iff.2 hmem)
    exact ⟨v, hv, h hv hk⟩

theorem Alike.lookup_eq (h : (Value.map fields).Alike (.map fields'))
    (hk : fields'.lookup k = some w) (hw : w.IsRigid) : fields.lookup k = some w := by
  obtain ⟨v, hv, halike⟩ := h.exists_lookup hk
  rw [hv, hw halike]

end CatalogReplication.Value
