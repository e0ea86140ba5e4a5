import CatalogReplication.Proofs.Value.Expand
import CatalogReplication.Proofs.Value.Merge

/-!
# Merging and expanding can be exchanged

If two layers can be expanded, merging what they become comes to the same as expanding what they are
merged into, and the one fails just if the other does (`Value.together_merge`). The induction is on
the lower layer. That expanding leaves nothing, leaves and mappings what they are makes both merges
take the same way at each place.
-/

namespace CatalogReplication.Value

variable {env : Environment} {v w x x' y y' : Value}
  {xs xs' ys ys' zs zs' : List (String × Value)} {k : String}

/-! ### What expanding leaves as it is -/

theorem isNull_of_expand (h : expand env v = .ok w) : w.isNull = v.isNull := by
  have hends := ends_expand env v
  rw [h] at hends
  cases hends with
  | all h _ => cases h <;> rfl

theorem isMap_of_expand (h : expand env v = .ok w) : w.isMap = v.isMap := by
  have hends := ends_expand env v
  rw [h] at hends
  cases hends with
  | all h _ => cases h <;> rfl

theorem IsLeaf.of_expand (hv : v.IsLeaf) (h : expand env v = .ok w) : w.IsLeaf :=
  ⟨(isNull_of_expand h).trans hv.1, (isMap_of_expand h).trans hv.2⟩

theorem Clashes.of_expand (hclash : x.Clashes y) (hx : expand env x = .ok x')
    (hy : expand env y = .ok y') : x'.Clashes y' :=
  ⟨(isNull_of_expand hx).trans hclash.isNull_left, (isNull_of_expand hy).trans hclash.isNull_right,
    by rw [isMap_of_expand hx, isMap_of_expand hy]; exact hclash.isMap_ne⟩

theorem expand_null (env : Environment) : expand env .null = .ok .null := rfl

theorem expand_map_eq_ok_iff :
    expand env (.map xs) = .ok w ↔ ∃ xs', expandFields env xs = .ok xs' ∧ w = .map xs' := by
  rw [expand]
  cases expandFields env xs <;> simp [eq_comm]

/-! ### Entries -/

theorem expandFields_cons_eq_ok_iff :
    expandFields env ((k, v) :: xs) = .ok zs ↔
      ∃ w xs', expand env v = .ok w ∧ expandFields env xs = .ok xs' ∧ zs = (k, w) :: xs' := by
  rw [expandFields]
  cases expand env v with
  | error e => simp
  | ok w => cases expandFields env xs <;> simp [eq_comm]

theorem keys_of_expandFields (h : expandFields env xs = .ok xs') :
    Assoc.keys xs' = Assoc.keys xs := by
  induction xs generalizing xs' with
  | nil =>
    cases h
    rfl
  | cons e rest ih =>
    obtain ⟨w, rest', -, hrest, rfl⟩ := expandFields_cons_eq_ok_iff.1 h
    exact congrArg (e.1 :: ·) (ih hrest)

theorem hasKey_of_expandFields (h : expandFields env xs = .ok xs') (k : String) :
    Assoc.hasKey k xs' = Assoc.hasKey k xs := by
  rw [Bool.eq_iff_iff, Assoc.hasKey_iff_mem_keys, Assoc.hasKey_iff_mem_keys, keys_of_expandFields h]

theorem lookup_of_expandFields (h : expandFields env xs = .ok xs') (hk : xs.lookup k = some v) :
    ∃ w, expand env v = .ok w ∧ xs'.lookup k = some w := by
  induction xs generalizing xs' with
  | nil => cases hk
  | cons e rest ih =>
    obtain ⟨k', v'⟩ := e
    obtain ⟨w, rest', hw, hrest, rfl⟩ := expandFields_cons_eq_ok_iff.1 h
    by_cases he : k = k'
    · subst he
      obtain rfl : v' = v := by simpa using hk
      exact ⟨w, hw, by simp⟩
    · have hb : (k == k') = false := beq_eq_false_iff_ne.2 he
      rw [List.lookup_cons, hb] at hk ⊢
      exact ih hrest hk

theorem expandFields_filter (h : expandFields env xs = .ok xs') (keep : String → Bool) :
    expandFields env (xs.filter fun e => keep e.1) = .ok (xs'.filter fun e => keep e.1) := by
  induction xs generalizing xs' with
  | nil =>
    cases h
    rfl
  | cons e rest ih =>
    obtain ⟨k, v⟩ := e
    obtain ⟨w, rest', hw, hrest, rfl⟩ := expandFields_cons_eq_ok_iff.1 h
    cases hkeep : keep k with
    | true =>
      rw [List.filter_cons_of_pos (by simpa using hkeep), List.filter_cons_of_pos (by simpa using hkeep)]
      exact expandFields_cons_eq_ok_iff.2 ⟨w, _, hw, ih hrest, rfl⟩
    | false =>
      rw [List.filter_cons_of_neg (by simpa using hkeep), List.filter_cons_of_neg (by simpa using hkeep)]
      exact ih hrest

theorem expandFields_append (h : expandFields env xs = .ok xs')
    (h' : expandFields env ys = .ok ys') :
    expandFields env (xs ++ ys) = .ok (xs' ++ ys') := by
  induction xs generalizing xs' with
  | nil =>
    cases h
    exact h'
  | cons e rest ih =>
    obtain ⟨w, rest', hw, hrest, rfl⟩ := expandFields_cons_eq_ok_iff.1 h
    exact expandFields_cons_eq_ok_iff.2 ⟨w, _, hw, ih hrest, rfl⟩

/-! ### Layers that are expanded first -/

/-- Two merges fail together, and what the first one gives becomes what the second one gives. -/
inductive Together {α : Type} (becomes : α → α → Prop) :
    Except MergeMismatch α → Except MergeMismatch α → Prop where
  | ok {a b : α} (h : becomes a b) : Together becomes (.ok a) (.ok b)
  | error (e e' : MergeMismatch) : Together becomes (.error e) (.error e')

theorem together_mergeFields (hx : expandFields env xs = .ok xs')
    (hy : expandFields env ys = .ok ys')
    (ih : ∀ e ∈ xs, ∀ {x' y y' : Value}, expand env e.2 = .ok x' → expand env y = .ok y' →
      Together (fun v w => expand env v = .ok w) (merge e.2 y) (merge x' y')) :
    Together (fun zs zs' => expandFields env zs = .ok zs') (mergeFields xs ys)
      (mergeFields xs' ys') := by
  induction xs generalizing xs' with
  | nil =>
    cases hx
    exact .ok rfl
  | cons e rest ihrest =>
    obtain ⟨k, x⟩ := e
    obtain ⟨x', rest', hhead, hrest, rfl⟩ := expandFields_cons_eq_ok_iff.1 hx
    obtain ⟨ihhead, ihtail⟩ := List.forall_mem_cons.1 ih
    have htail := ihrest hrest ihtail
    rw [mergeFields, mergeFields]
    generalize mergeFields rest ys = r, mergeFields rest' ys' = r' at htail
    cases hk : ys.lookup k with
    | none =>
      have hk' : ys'.lookup k = none := by
        rw [Assoc.lookup_eq_none_iff] at hk ⊢
        rwa [keys_of_expandFields hy]
      rw [hk']
      cases htail with
      | ok h => exact .ok (expandFields_cons_eq_ok_iff.2 ⟨x', _, hhead, h, rfl⟩)
      | error e e' => exact .error e e'
    | some y =>
      obtain ⟨y', hy', hk'⟩ := lookup_of_expandFields hy hk
      have hentry := ihhead hhead hy'
      rw [hk']
      dsimp only at hentry ⊢
      generalize merge x y = m, merge x' y' = m' at hentry
      cases hentry with
      | error e e' => exact .error e e'
      | ok hw =>
        cases htail with
        | ok h => exact .ok (expandFields_cons_eq_ok_iff.2 ⟨_, _, hw, h, rfl⟩)
        | error e e' => exact .error e e'

theorem together_merge_of_isLeaf (hleaf : x.IsLeaf) (hx : expand env x = .ok x')
    (hy : expand env y = .ok y') :
    Together (fun v w => expand env v = .ok w) (merge x y) (merge x' y') := by
  obtain rfl | ⟨ys, rfl⟩ | hyleaf := y.null_or_map_or_leaf
  · cases (expand_null env).symm.trans hy
    rw [merge_null, merge_null]
    exact .ok hx
  · rw [merge_of_clashes hleaf.clashes_map, merge_of_clashes (hleaf.clashes_map.of_expand hx hy)]
    exact .error _ _
  · rw [merge_of_isLeaf hleaf hyleaf, merge_of_isLeaf (hleaf.of_expand hx) (hyleaf.of_expand hy)]
    exact .ok hy

/-- **Merging and expanding can be exchanged.** -/
theorem together_merge (hx : expand env x = .ok x') (hy : expand env y = .ok y') :
    Together (fun v w => expand env v = .ok w) (merge x y) (merge x' y') := by
  induction x using inductionOn generalizing x' y y' with
  | null =>
    cases (expand_null env).symm.trans hx
    rw [null_merge, null_merge]
    exact .ok hy
  | bool b => exact together_merge_of_isLeaf ⟨rfl, rfl⟩ hx hy
  | int n => exact together_merge_of_isLeaf ⟨rfl, rfl⟩ hx hy
  | real r => exact together_merge_of_isLeaf ⟨rfl, rfl⟩ hx hy
  | text s => exact together_merge_of_isLeaf ⟨rfl, rfl⟩ hx hy
  | list items _ => exact together_merge_of_isLeaf ⟨rfl, rfl⟩ hx hy
  | map xs ih =>
    obtain ⟨xs', hxs, rfl⟩ := expand_map_eq_ok_iff.1 hx
    obtain rfl | ⟨ys, rfl⟩ | hyleaf := y.null_or_map_or_leaf
    · cases (expand_null env).symm.trans hy
      rw [merge_null, merge_null]
      exact .ok hx
    · obtain ⟨ys', hys, rfl⟩ := expand_map_eq_ok_iff.1 hy
      have hfields := together_mergeFields hxs hys ih
      have hkept := expandFields_filter hys fun k => !Assoc.hasKey k xs
      rw [merge, merge]
      generalize mergeFields xs ys = r, mergeFields xs' ys' = r' at hfields
      cases hfields with
      | ok h =>
        refine .ok (expand_map_eq_ok_iff.2 ⟨_, expandFields_append h ?_, rfl⟩)
        simpa only [hasKey_of_expandFields hxs] using hkept
      | error e e' => exact .error e e'
    · rw [merge_of_clashes hyleaf.map_clashes,
        merge_of_clashes (hyleaf.map_clashes.of_expand hx hy)]
      exact .error _ _

end CatalogReplication.Value
