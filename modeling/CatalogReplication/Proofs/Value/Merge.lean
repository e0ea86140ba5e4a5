import CatalogReplication.Proofs.Value.Path
import CatalogReplication.Value.Merge

/-!
# Layering is path by path, and associative

* `Value.overlay?_at?`: what stands at the end of a path in a merged value is what stands there in
  the upper layer laid over what stands there in the lower one; hence `Value.layered_of_merge`.
* `Value.merge_eq_error_iff`: two layers don't fit just if some path leads to a mapping in one of
  them and to something else in the other.
* `Value.merge_assoc`: of three layers it doesn't matter which two are merged first.

The induction is on the well-formedness of the lower value, which gives the hypothesis for its
entries. `Value.Merged` says what merging does to two mappings, key by key, so that no proof after
`merge_map_eq_ok_iff` looks at the recursion again.
-/

namespace CatalogReplication.Value

variable {x y z v w a b : Value} {xs ys zs us vs ws : List (String × Value)}

/-! ### Merging by the kinds of the values -/

theorem merge_of_isLeaf (hx : x.IsLeaf) (hy : y.IsLeaf) : merge x y = .ok y := by
  cases x <;> cases y <;> simp_all [merge, IsLeaf, isNull, isMap]

/-- A mapping and something else stand at the same place. -/
structure Clashes (x y : Value) : Prop where
  isNull_left : x.isNull = false
  isNull_right : y.isNull = false
  isMap_ne : x.isMap ≠ y.isMap

theorem merge_of_clashes (h : x.Clashes y) : merge x y = .error ⟨x, y⟩ := by
  obtain ⟨hx, hy, hne⟩ := h
  cases x <;> cases y <;> simp_all [merge, isNull, isMap]

theorem IsLeaf.clashes_map (h : x.IsLeaf) : x.Clashes (.map ys) :=
  ⟨h.1, rfl, fun he => Bool.false_ne_true (h.2.symm.trans he)⟩

theorem IsLeaf.map_clashes (h : y.IsLeaf) : (map xs).Clashes y :=
  ⟨rfl, h.1, fun he => Bool.false_ne_true (h.2.symm.trans he.symm)⟩

/-! ### One key -/

/-- What two layers have at one place, the upper laid over the lower; nothing if they don't fit. -/
def overlay? : Option Value → Option Value → Option (Option Value)
  | none, b => some b
  | some a, none => some (some a)
  | some a, some b => (merge a b).toOption.map some

theorem overlay?_none_right (a : Option Value) : overlay? a none = some a := by
  cases a <;> rfl

theorem overlay?_some (h : merge a b = .ok v) : overlay? (some a) (some b) = some (some v) := by
  rw [overlay?, h]
  rfl

theorem merge_of_overlay? {c : Option Value} (h : overlay? (some a) (some b) = some c) :
    ∃ v, c = some v ∧ merge a b = .ok v := by
  rw [overlay?] at h
  cases hm : merge a b with
  | error e => simp [hm, Except.toOption] at h
  | ok v => exact ⟨v, by simpa [hm, Except.toOption, eq_comm] using h, rfl⟩

/-! ### The entries of mappings -/

theorem keys_of_mergeFields (h : mergeFields xs ys = .ok zs) : Assoc.keys zs = Assoc.keys xs := by
  induction xs generalizing zs with
  | nil =>
    rw [mergeFields] at h
    cases h
    rfl
  | cons e rest ih =>
    obtain ⟨k, a⟩ := e
    rw [mergeFields] at h
    split at h
    · split at h <;> cases h
      rename_i hrest
      exact congrArg (k :: ·) (ih hrest)
    · split at h
      · cases h
      · split at h <;> cases h
        rename_i hrest
        exact congrArg (k :: ·) (ih hrest)

theorem lookup_of_mergeFields (h : mergeFields xs ys = .ok zs) {k : String}
    (hk : xs.lookup k = some a) : overlay? (some a) (ys.lookup k) = some (zs.lookup k) := by
  induction xs generalizing zs with
  | nil => cases hk
  | cons e rest ih =>
    obtain ⟨k', a'⟩ := e
    have hhead : ∀ {c : Value} {rest' : List (String × Value)}, mergeFields rest ys = .ok rest' →
        overlay? (some a') (ys.lookup k') = some (some c) →
        overlay? (some a) (ys.lookup k) = some (((k', c) :: rest').lookup k) := by
      intro c rest' hrest hc
      by_cases he : k = k'
      · subst he
        obtain rfl : a' = a := by simpa using hk
        simpa using hc
      · have hb : (k == k') = false := beq_eq_false_iff_ne.2 he
        rw [List.lookup_cons, hb] at hk ⊢
        exact ih hrest hk
    rw [mergeFields] at h
    split at h
    · rename_i hnone
      split at h <;> cases h
      rename_i hrest
      exact hhead hrest (by rw [hnone]; rfl)
    · rename_i b hsome
      split at h
      · cases h
      · rename_i c hc
        split at h <;> cases h
        rename_i hrest
        exact hhead hrest (by rw [hsome]; exact overlay?_some hc)

theorem mem_of_mergeFields_eq_error {e : MergeMismatch} (h : mergeFields xs ys = .error e) :
    ∃ k a b, (k, a) ∈ xs ∧ ys.lookup k = some b ∧ merge a b = .error e := by
  induction xs with
  | nil =>
    rw [mergeFields] at h
    cases h
  | cons e' rest ih =>
    obtain ⟨k, a⟩ := e'
    have htail : mergeFields rest ys = .error e →
        ∃ k' a' b, (k', a') ∈ (k, a) :: rest ∧ ys.lookup k' = some b ∧ merge a' b = .error e := by
      intro hrest
      obtain ⟨k', a', b, hmem, hb, he⟩ := ih hrest
      exact ⟨k', a', b, List.mem_cons_of_mem _ hmem, hb, he⟩
    rw [mergeFields] at h
    split at h
    · split at h <;> cases h
      rename_i hrest
      exact htail hrest
    · rename_i b hb
      split at h
      · rename_i hmerge
        cases h
        exact ⟨k, a, b, List.mem_cons_self, hb, hmerge⟩
      · split at h <;> cases h
        rename_i hrest
        exact htail hrest

/-! ### Mappings -/

/-- What merging does to two mappings: the keys of the lower one come first, and what stands under
each key is laid over what stood there. -/
structure Merged (xs ys zs : List (String × Value)) : Prop where
  keys_eq : Assoc.keys zs = Assoc.joinKeys (Assoc.keys xs) (Assoc.keys ys)
  overlay?_lookup : ∀ k, overlay? (xs.lookup k) (ys.lookup k) = some (zs.lookup k)

theorem Merged.nodup_keys (h : Merged xs ys zs) (hx : (Assoc.keys xs).Nodup)
    (hy : (Assoc.keys ys).Nodup) : (Assoc.keys zs).Nodup :=
  h.keys_eq ▸ Assoc.nodup_joinKeys hx hy

theorem Merged.unique (h : Merged xs ys zs) (h' : Merged xs ys vs) (hx : (Assoc.keys xs).Nodup)
    (hy : (Assoc.keys ys).Nodup) : zs = vs := by
  refine Assoc.ext_lookup (h.keys_eq.trans h'.keys_eq.symm) (h.nodup_keys hx hy) fun k => ?_
  exact Option.some.inj ((h.overlay?_lookup k).symm.trans (h'.overlay?_lookup k))

theorem merged_of_mergeFields (h : mergeFields xs ys = .ok zs) :
    Merged xs ys (zs ++ ys.filter fun e => !Assoc.hasKey e.1 xs) := by
  have hkeys := keys_of_mergeFields h
  have hfilter : (ys.filter fun e => !Assoc.hasKey e.1 xs).map Prod.fst =
      (ys.map Prod.fst).filter fun k => !(xs.map Prod.fst).contains k := by
    rw [List.filter_map]
    refine congrArg _ (List.filter_congr fun e _ => ?_)
    rw [Function.comp_apply, Bool.not_inj_iff, Bool.eq_iff_iff, Assoc.hasKey_iff_mem_keys,
      List.contains_iff_mem]
    exact Iff.rfl
  refine ⟨?_, fun k => ?_⟩
  · show (zs ++ ys.filter fun e => !Assoc.hasKey e.1 xs).map Prod.fst = _
    rw [List.map_append, hfilter, ← Assoc.keys, hkeys]
    rfl
  · rw [List.lookup_append, Assoc.lookup_filter (fun k => !Assoc.hasKey k xs)]
    cases hk : xs.lookup k with
    | some a =>
      have hmem : k ∈ Assoc.keys zs :=
        hkeys ▸ Assoc.isSome_lookup_iff.1 (Option.isSome_iff_exists.2 ⟨a, hk⟩)
      obtain ⟨c, hc⟩ := Option.isSome_iff_exists.1 (Assoc.isSome_lookup_iff.2 hmem)
      rw [lookup_of_mergeFields h hk, hc, Option.some_or]
    | none =>
      have hzs : zs.lookup k = none :=
        Assoc.lookup_eq_none_iff.2 (hkeys ▸ Assoc.lookup_eq_none_iff.1 hk)
      have hnew : Assoc.hasKey k xs = false := congrArg Option.isSome hk
      rw [hzs, hnew, Option.none_or]
      rfl

theorem merged_of_merge (h : merge (.map xs) (.map ys) = .ok v) :
    ∃ zs, v = .map zs ∧ Merged xs ys zs := by
  rw [merge] at h
  split at h <;> cases h
  rename_i hfields
  exact ⟨_, rfl, merged_of_mergeFields hfields⟩

/-- Merging two mappings fails at a key of both. -/
theorem lookup_of_merge_eq_error (hx : (Assoc.keys xs).Nodup) {e : MergeMismatch}
    (h : merge (.map xs) (.map ys) = .error e) :
    ∃ k a b, xs.lookup k = some a ∧ ys.lookup k = some b ∧ merge a b = .error e := by
  rw [merge] at h
  split at h <;> cases h
  rename_i hfields
  obtain ⟨k, a, b, hmem, hb, he⟩ := mem_of_mergeFields_eq_error hfields
  exact ⟨k, a, b, (Assoc.lookup_eq_some_iff_mem hx).2 hmem, hb, he⟩

/-- Two mappings can be merged if what they have under each key can be. -/
theorem exists_merged (hx : (Assoc.keys xs).Nodup)
    (h : ∀ k, ∃ c, overlay? (xs.lookup k) (ys.lookup k) = some c) :
    ∃ zs, merge (.map xs) (.map ys) = .ok (.map zs) ∧ Merged xs ys zs := by
  cases hm : merge (.map xs) (.map ys) with
  | ok v =>
    obtain ⟨zs, rfl, hzs⟩ := merged_of_merge hm
    exact ⟨zs, rfl, hzs⟩
  | error e =>
    obtain ⟨k, a, b, ha, hb, he⟩ := lookup_of_merge_eq_error hx hm
    obtain ⟨c, hc⟩ := h k
    rw [ha, hb] at hc
    obtain ⟨v, -, hv⟩ := merge_of_overlay? hc
    cases he.symm.trans hv

theorem merge_map_eq_ok_iff (hx : (Assoc.keys xs).Nodup) (hy : (Assoc.keys ys).Nodup) :
    merge (.map xs) (.map ys) = .ok v ↔ ∃ zs, v = .map zs ∧ Merged xs ys zs := by
  refine ⟨merged_of_merge, ?_⟩
  rintro ⟨zs, rfl, hzs⟩
  obtain ⟨zs', hmerge, hzs'⟩ := exists_merged hx fun k => ⟨_, hzs.overlay?_lookup k⟩
  rw [hmerge, hzs.unique hzs' hx hy]

/-! ### What merging can do -/

/-- How one value is laid over another. -/
inductive Lays : Value → Value → Value → Prop where
  | null_left (y : Value) : Lays .null y y
  | null_right (x : Value) : Lays x .null x
  | map {xs ys zs : List (String × Value)} (h : Merged xs ys zs) :
      Lays (.map xs) (.map ys) (.map zs)
  | leaf {x y : Value} (hx : x.IsLeaf) (hy : y.IsLeaf) : Lays x y y

/-- Merging two values either lays the one over the other or finds that they clash, here or at a key
of both. -/
theorem lays_or_clashes (x y : Value) :
    (∃ v, merge x y = .ok v ∧ Lays x y v) ∨ (x.Clashes y ∧ merge x y = .error ⟨x, y⟩) ∨
      ∃ xs ys e, x = .map xs ∧ y = .map ys ∧ merge x y = .error e := by
  have hclash : ∀ {x y : Value}, x.Clashes y → x.Clashes y ∧ merge x y = .error ⟨x, y⟩ :=
    fun h => ⟨h, merge_of_clashes h⟩
  obtain rfl | ⟨xs, rfl⟩ | hx := x.null_or_map_or_leaf
  · exact .inl ⟨y, null_merge y, .null_left y⟩
  · obtain rfl | ⟨ys, rfl⟩ | hy := y.null_or_map_or_leaf
    · exact .inl ⟨_, merge_null _, .null_right _⟩
    · cases h : merge (.map xs) (.map ys) with
      | ok v =>
        obtain ⟨zs, rfl, hzs⟩ := merged_of_merge h
        exact .inl ⟨_, rfl, .map hzs⟩
      | error e => exact .inr (.inr ⟨xs, ys, e, rfl, rfl, rfl⟩)
    · exact .inr (.inl (hclash hy.map_clashes))
  · obtain rfl | ⟨ys, rfl⟩ | hy := y.null_or_map_or_leaf
    · exact .inl ⟨_, merge_null _, .null_right _⟩
    · exact .inr (.inl (hclash hx.clashes_map))
    · exact .inl ⟨y, merge_of_isLeaf hx hy, .leaf hx hy⟩

theorem lays_of_merge (h : merge x y = .ok v) : Lays x y v := by
  obtain ⟨w, hw, hlays⟩ | ⟨-, herror⟩ | ⟨xs, ys, e, -, -, herror⟩ := lays_or_clashes x y
  · cases hw.symm.trans h
    exact hlays
  · cases herror.symm.trans h
  · cases herror.symm.trans h

/-! ### What merging gives at one place -/

theorem Lays.overlay?_field? (h : Lays x y v) (k : String) :
    overlay? (x.field? k) (y.field? k) = some (v.field? k) := by
  cases h with
  | null_left => rfl
  | null_right => exact overlay?_none_right _
  | map h => exact h.overlay?_lookup k
  | leaf hx hy =>
    rw [hx.field?_eq_none]
    rfl

theorem Lays.mem_keys_iff (h : Lays x y v) (k : String) :
    k ∈ v.keys ↔ k ∈ x.keys ∨ k ∈ y.keys := by
  cases h with
  | null_left => simp [keys]
  | null_right => simp [keys]
  | @map xs ys zs h =>
    show k ∈ Assoc.keys zs ↔ _
    rw [h.keys_eq]
    exact Assoc.mem_joinKeys
  | leaf hx hy => simp [hx.keys_eq_nil]

theorem Lays.isMap_eq (h : Lays x y v) : v.isMap = (x.isMap || y.isMap) := by
  cases h with
  | null_left => rfl
  | null_right => exact (Bool.or_false _).symm
  | map _ => rfl
  | leaf hx hy => rw [hx.2, Bool.false_or]

/-- What is no mapping is the upper value, or else the lower one. -/
theorem Lays.eq_upper (h : Lays x y v) (hv : v.isMap = false) :
    v = (((some y).filter fun w => !w.isNull).or ((some x).filter fun w => !w.isNull)).getD
      .null := by
  cases h with
  | null_left => cases y <;> rfl
  | null_right => cases x <;> rfl
  | map _ => cases hv
  | leaf hx hy => simp [Option.filter, hy.1]

/-! ### Path by path -/

/-- **What stands at the end of a path after merging** is what stands there in the upper layer laid
over what stands there in the lower one. -/
theorem overlay?_at? (h : merge x y = .ok v) (path : List String) :
    overlay? (x.at? path) (y.at? path) = some (v.at? path) := by
  induction path generalizing x y v with
  | nil => exact overlay?_some h
  | cons k path ih =>
    have hk := (lays_of_merge h).overlay?_field? k
    rw [at?_cons, at?_cons, at?_cons]
    cases hx : x.field? k with
    | none =>
      rw [hx] at hk
      rw [← Option.some.inj hk]
      rfl
    | some a =>
      cases hy : y.field? k with
      | none =>
        rw [hx, hy] at hk
        rw [← Option.some.inj hk]
        exact overlay?_none_right _
      | some b =>
        rw [hx, hy] at hk
        obtain ⟨c, hc, hmerge⟩ := merge_of_overlay? hk
        rw [hc]
        exact ih hmerge

/-- A value that two layers leave together. -/
structure Layered (x y v : Value) : Prop where
  /-- A merged mapping has the keys of both sides. -/
  mem_keysAt_iff : ∀ path k, k ∈ v.keysAt path ↔ k ∈ x.keysAt path ∨ k ∈ y.keysAt path
  /-- There is a mapping wherever one of the sides has one. -/
  isMapAt_eq : ∀ path, v.isMapAt path = (x.isMapAt path || y.isMapAt path)
  /-- What is no mapping comes from the upper side, or else from the lower one. -/
  eq_upper : ∀ path w, v.at? path = some w → w.isMap = false →
    w = ((y.something? path).or (x.something? path)).getD .null

theorem layered_of_merge (h : merge x y = .ok v) : Layered x y v := by
  have hcases : ∀ path, (x.at? path = none ∧ v.at? path = y.at? path) ∨
      (y.at? path = none ∧ v.at? path = x.at? path) ∨
      ∃ a b c, x.at? path = some a ∧ y.at? path = some b ∧ v.at? path = some c ∧ Lays a b c := by
    intro path
    have hpath := overlay?_at? h path
    cases hx : x.at? path with
    | none =>
      rw [hx] at hpath
      exact .inl ⟨rfl, (Option.some.inj hpath).symm⟩
    | some a =>
      cases hy : y.at? path with
      | none =>
        rw [hx, hy] at hpath
        exact .inr (.inl ⟨rfl, (Option.some.inj hpath).symm⟩)
      | some b =>
        rw [hx, hy] at hpath
        obtain ⟨c, hc, hmerge⟩ := merge_of_overlay? hpath
        exact .inr (.inr ⟨a, b, c, rfl, rfl, hc, lays_of_merge hmerge⟩)
  refine ⟨fun path k => ?_, fun path => ?_, fun path w hw hmap => ?_⟩
  · obtain ⟨hx, hv⟩ | ⟨hy, hv⟩ | ⟨a, b, c, hx, hy, hv, hlays⟩ := hcases path
    · simp [keysAt, hx, hv]
    · simp [keysAt, hy, hv]
    · simpa [keysAt, hx, hy, hv] using hlays.mem_keys_iff k
  · obtain ⟨hx, hv⟩ | ⟨hy, hv⟩ | ⟨a, b, c, hx, hy, hv, hlays⟩ := hcases path
    · simp [isMapAt, hx, hv]
    · simp [isMapAt, hy, hv]
    · simpa [isMapAt, hx, hy, hv] using hlays.isMap_eq
  · obtain ⟨hx, hv⟩ | ⟨hy, hv⟩ | ⟨a, b, c, hx, hy, hv, hlays⟩ := hcases path
    · rw [something?, something?, hx, ← hv, hw]
      cases w <;> rfl
    · rw [something?, something?, hy, ← hv, hw]
      cases w <;> rfl
    · obtain rfl : c = w := Option.some.inj (hv.symm.trans hw)
      rw [something?, something?, hx, hy]
      exact hlays.eq_upper hmap

/-! ### Where layers don't fit -/

/-- Merging fails where a path leads to two values that clash. -/
theorem clashes_of_merge_eq_error (hx : x.WellFormed) {e : MergeMismatch}
    (h : merge x y = .error e) :
    ∃ path, x.at? path = some e.lower ∧ y.at? path = some e.upper ∧ e.lower.Clashes e.upper := by
  induction hx generalizing y with
  | @map xs hkeys _ ih =>
    obtain ⟨v, hv, -⟩ | ⟨hclash, hmerge⟩ | ⟨xs', ys, e', hxs, rfl, -⟩ :=
      lays_or_clashes (.map xs) y
    · cases hv.symm.trans h
    · cases hmerge.symm.trans h
      exact ⟨[], rfl, rfl, hclash⟩
    · obtain ⟨k, a, b, ha, hb, hmerge⟩ := lookup_of_merge_eq_error hkeys h
      obtain ⟨path, hlower, hupper, hclash⟩ := ih (k, a) (Assoc.mem_of_lookup ha) hmerge
      refine ⟨k :: path, ?_, ?_, hclash⟩
      · rw [at?_cons, field?_map, ha]
        exact hlower
      · rw [at?_cons, field?_map, hb]
        exact hupper
  | _ =>
    obtain ⟨v, hv, -⟩ | ⟨hclash, hmerge⟩ | ⟨xs', ys, e', hxs, -⟩ := lays_or_clashes _ y
    · cases hv.symm.trans h
    · cases hmerge.symm.trans h
      exact ⟨[], rfl, rfl, hclash⟩
    · cases hxs

/-- **Two layers don't fit** just if a path leads to a mapping in one of them and to something else
in the other. -/
theorem merge_eq_error_iff (hx : x.WellFormed) :
    (∃ e, merge x y = .error e) ↔
      ∃ path a b, x.at? path = some a ∧ y.at? path = some b ∧ a.Clashes b := by
  constructor
  · rintro ⟨e, h⟩
    obtain ⟨path, hlower, hupper, hclash⟩ := clashes_of_merge_eq_error hx h
    exact ⟨path, e.lower, e.upper, hlower, hupper, hclash⟩
  · rintro ⟨path, a, b, ha, hb, hclash⟩
    cases h : merge x y with
    | error e => exact ⟨e, rfl⟩
    | ok v =>
      have hpath := overlay?_at? h path
      rw [ha, hb] at hpath
      obtain ⟨w, -, hw⟩ := merge_of_overlay? hpath
      cases (merge_of_clashes hclash).symm.trans hw

/-! ### Well-formed layers -/

theorem wellFormed_of_merge (hx : x.WellFormed) (hy : y.WellFormed) (h : merge x y = .ok v) :
    v.WellFormed := by
  have hlays := lays_of_merge h
  have hself := hx
  induction hx generalizing y v with
  | @map xs hkeys hwell ih =>
    cases hlays with
    | null_right => exact hself
    | leaf _ _ => exact hy
    | @map _ ys zs hzs =>
      have hnodup := hzs.nodup_keys hkeys hy.nodup_keys
      refine .map hnodup fun e he => ?_
      obtain ⟨k, c⟩ := e
      have hk := hzs.overlay?_lookup k
      rw [(Assoc.lookup_eq_some_iff_mem hnodup).2 he] at hk
      cases ha : xs.lookup k with
      | none =>
        rw [ha] at hk
        exact hy.of_lookup (Option.some.inj hk)
      | some a =>
        have hmem := Assoc.mem_of_lookup ha
        cases hb : ys.lookup k with
        | none =>
          rw [ha, hb] at hk
          cases hk
          exact hwell _ hmem
        | some b =>
          rw [ha, hb] at hk
          obtain ⟨w, hw, hmerge⟩ := merge_of_overlay? hk
          cases hw
          exact ih _ hmem (hy.of_lookup hb) hmerge (lays_of_merge hmerge) (hwell _ hmem)
  | _ => cases hlays <;> assumption

/-! ### Three layers -/

/-- Merging three mappings, what holds of the values under each key holds of the whole. -/
theorem merged_assoc (hx : (Assoc.keys xs).Nodup) (hy : (Assoc.keys ys).Nodup)
    (hassoc : ∀ k d, (∃ c, overlay? (xs.lookup k) (ys.lookup k) = some c ∧
        overlay? c (zs.lookup k) = some d) ↔
      ∃ c, overlay? (ys.lookup k) (zs.lookup k) = some c ∧ overlay? (xs.lookup k) c = some d) :
    (∃ us, Merged xs ys us ∧ Merged us zs ws) ↔ ∃ us, Merged ys zs us ∧ Merged xs us ws := by
  constructor
  · rintro ⟨us, hus, hws⟩
    have hstep : ∀ k, ∃ c, overlay? (ys.lookup k) (zs.lookup k) = some c ∧
        overlay? (xs.lookup k) c = some (ws.lookup k) := fun k =>
      (hassoc k _).1 ⟨_, hus.overlay?_lookup k, hws.overlay?_lookup k⟩
    obtain ⟨vs, -, hvs⟩ := exists_merged hy fun k => (hstep k).imp fun _ h => h.1
    refine ⟨vs, hvs, ?_, fun k => ?_⟩
    · rw [hws.keys_eq, hus.keys_eq, hvs.keys_eq, Assoc.joinKeys_assoc]
    · obtain ⟨c, hc, hd⟩ := hstep k
      rwa [Option.some.inj ((hvs.overlay?_lookup k).symm.trans hc)]
  · rintro ⟨us, hus, hws⟩
    have hstep : ∀ k, ∃ c, overlay? (xs.lookup k) (ys.lookup k) = some c ∧
        overlay? c (zs.lookup k) = some (ws.lookup k) := fun k =>
      (hassoc k _).2 ⟨_, hus.overlay?_lookup k, hws.overlay?_lookup k⟩
    obtain ⟨vs, -, hvs⟩ := exists_merged hx fun k => (hstep k).imp fun _ h => h.1
    refine ⟨vs, hvs, ?_, fun k => ?_⟩
    · rw [hws.keys_eq, hus.keys_eq, hvs.keys_eq, Assoc.joinKeys_assoc]
    · obtain ⟨c, hc, hd⟩ := hstep k
      rwa [Option.some.inj ((hvs.overlay?_lookup k).symm.trans hc)]

theorem merge_map_assoc (hx : (Assoc.keys xs).Nodup) (hy : (Assoc.keys ys).Nodup)
    (hz : (Assoc.keys zs).Nodup)
    (hassoc : ∀ k d, (∃ c, overlay? (xs.lookup k) (ys.lookup k) = some c ∧
        overlay? c (zs.lookup k) = some d) ↔
      ∃ c, overlay? (ys.lookup k) (zs.lookup k) = some c ∧ overlay? (xs.lookup k) c = some d) :
    (∃ v, merge (.map xs) (.map ys) = .ok v ∧ merge v (.map zs) = .ok w) ↔
      ∃ v, merge (.map ys) (.map zs) = .ok v ∧ merge (.map xs) v = .ok w := by
  constructor
  · rintro ⟨v, hv, hw⟩
    obtain ⟨us, rfl, hus⟩ := merged_of_merge hv
    obtain ⟨ws, rfl, hws⟩ := merged_of_merge hw
    obtain ⟨us', hus', hws'⟩ := (merged_assoc hx hy hassoc).1 ⟨us, hus, hws⟩
    exact ⟨.map us', (merge_map_eq_ok_iff hy hz).2 ⟨us', rfl, hus'⟩,
      (merge_map_eq_ok_iff hx (hus'.nodup_keys hy hz)).2 ⟨ws, rfl, hws'⟩⟩
  · rintro ⟨v, hv, hw⟩
    obtain ⟨us, rfl, hus⟩ := merged_of_merge hv
    obtain ⟨ws, rfl, hws⟩ := merged_of_merge hw
    obtain ⟨us', hus', hws'⟩ := (merged_assoc hx hy hassoc).2 ⟨us, hus, hws⟩
    exact ⟨.map us', (merge_map_eq_ok_iff hx hy).2 ⟨us', rfl, hus'⟩,
      (merge_map_eq_ok_iff (hus'.nodup_keys hx hy) hz).2 ⟨ws, rfl, hws'⟩⟩

theorem overlay?_assoc {a b c : Option Value}
    (h : ∀ a' b' c', a = some a' → b = some b' → c = some c' → ∀ w,
      (∃ v, merge a' b' = .ok v ∧ merge v c' = .ok w) ↔
        ∃ v, merge b' c' = .ok v ∧ merge a' v = .ok w)
    (d : Option Value) :
    (∃ e, overlay? a b = some e ∧ overlay? e c = some d) ↔
      ∃ e, overlay? b c = some e ∧ overlay? a e = some d := by
  cases a with
  | none => simp [overlay?]
  | some a =>
    cases b with
    | none => simp [overlay?]
    | some b =>
      cases c with
      | none => simp [overlay?_none_right]
      | some c =>
        have habc := h a b c rfl rfl rfl
        constructor
        · rintro ⟨e, he, hd⟩
          obtain ⟨v, rfl, hv⟩ := merge_of_overlay? he
          obtain ⟨w, rfl, hw⟩ := merge_of_overlay? hd
          obtain ⟨u, hu, hw'⟩ := (habc w).1 ⟨v, hv, hw⟩
          exact ⟨some u, overlay?_some hu, overlay?_some hw'⟩
        · rintro ⟨e, he, hd⟩
          obtain ⟨v, rfl, hv⟩ := merge_of_overlay? he
          obtain ⟨w, rfl, hw⟩ := merge_of_overlay? hd
          obtain ⟨u, hu, hw'⟩ := (habc w).2 ⟨v, hv, hw⟩
          exact ⟨some u, overlay?_some hu, overlay?_some hw'⟩

theorem IsLeaf.merge_eq_ok_iff (hx : x.IsLeaf) (hy : y.isNull = false) :
    merge x y = .ok v ↔ y.IsLeaf ∧ v = y := by
  obtain rfl | ⟨ys, rfl⟩ | hleaf := y.null_or_map_or_leaf
  · cases hy
  · simp [merge_of_clashes hx.clashes_map, IsLeaf, isMap]
  · simp [merge_of_isLeaf hx hleaf, hleaf, eq_comm]

theorem IsLeaf.map_merge_ne_ok (hy : y.IsLeaf) : merge (.map xs) y ≠ .ok v := by
  simp [merge_of_clashes hy.map_clashes]

/-- Below a leaf, there can only be leaves. -/
theorem IsLeaf.merge_assoc (hx : x.IsLeaf) (hy : y.isNull = false) (hz : z.isNull = false) :
    (∃ v, merge x y = .ok v ∧ merge v z = .ok w) ↔
      ∃ v, merge y z = .ok v ∧ merge x v = .ok w := by
  constructor
  · rintro ⟨v, hv, hw⟩
    obtain ⟨hleaf, rfl⟩ := (hx.merge_eq_ok_iff hy).1 hv
    obtain ⟨hleaf', rfl⟩ := (hleaf.merge_eq_ok_iff hz).1 hw
    exact ⟨w, hw, merge_of_isLeaf hx hleaf'⟩
  · rintro ⟨v, hv, hw⟩
    have hnull : v.isNull = false := by
      cases lays_of_merge hv with
      | null_left => cases hy
      | null_right => cases hz
      | map _ => rfl
      | leaf _ hleaf => exact hleaf.1
    obtain ⟨hleaf, rfl⟩ := (hx.merge_eq_ok_iff hnull).1 hw
    have hmaps : y.isMap = false ∧ z.isMap = false := by
      rw [← Bool.or_eq_false_iff, ← (lays_of_merge hv).isMap_eq]
      exact hleaf.2
    exact ⟨y, merge_of_isLeaf hx ⟨hy, hmaps.1⟩, hv⟩

/-- A layer of nothing makes no difference. -/
theorem merge_assoc_of_isNull (h : y.isNull = false → z.isNull = false →
    ((∃ v, merge x y = .ok v ∧ merge v z = .ok w) ↔
      ∃ v, merge y z = .ok v ∧ merge x v = .ok w)) :
    (∃ v, merge x y = .ok v ∧ merge v z = .ok w) ↔
      ∃ v, merge y z = .ok v ∧ merge x v = .ok w := by
  obtain rfl | hy : y = .null ∨ y.isNull = false := by cases y <;> simp [isNull]
  · simp [merge_null, null_merge]
  obtain rfl | hz : z = .null ∨ z.isNull = false := by cases z <;> simp [isNull]
  · simp [merge_null]
  exact h hy hz

/-- **Layers can be grouped either way**, and what they give is the same even in the order of its
keys. -/
theorem merge_assoc (hx : x.WellFormed) (hy : y.WellFormed) (hz : z.WellFormed) :
    (∃ v, merge x y = .ok v ∧ merge v z = .ok w) ↔
      ∃ v, merge y z = .ok v ∧ merge x v = .ok w := by
  induction hx generalizing y z w with
  | null => simp [null_merge]
  | @map xs hkeys hwell ih =>
    refine merge_assoc_of_isNull fun hynull hznull => ?_
    obtain rfl | ⟨ys, rfl⟩ | hyleaf := y.null_or_map_or_leaf
    · cases hynull
    · obtain rfl | ⟨zs, rfl⟩ | hzleaf := z.null_or_map_or_leaf
      · cases hznull
      · exact merge_map_assoc hkeys hy.nodup_keys hz.nodup_keys fun k =>
          overlay?_assoc fun a b c ha hb hc _ =>
            ih _ (Assoc.mem_of_lookup ha) (hy.of_lookup hb) (hz.of_lookup hc)
      · constructor
        · rintro ⟨v, hv, hw⟩
          obtain ⟨us, rfl, -⟩ := merged_of_merge hv
          exact absurd hw hzleaf.map_merge_ne_ok
        · rintro ⟨v, hv, -⟩
          exact absurd hv hzleaf.map_merge_ne_ok
    · constructor
      · rintro ⟨v, hv, -⟩
        exact absurd hv hyleaf.map_merge_ne_ok
      · rintro ⟨v, hv, hw⟩
        obtain ⟨hzleaf, rfl⟩ := (hyleaf.merge_eq_ok_iff hznull).1 hv
        exact absurd hw hzleaf.map_merge_ne_ok
  | _ => exact merge_assoc_of_isNull (IsLeaf.merge_assoc ⟨rfl, rfl⟩)

end CatalogReplication.Value
