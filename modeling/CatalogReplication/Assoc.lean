/-!
# Keyed lists

A map as the list of its entries, each key once, in the order in which the keys came. `List.lookup`
reads it; `put` replaces an entry where it stands and adds a new one at the end, `erase` removes
one. The lemmas say what the look-up answers after each.
-/

namespace CatalogReplication

/-- A map as a list of entries in the order of their first insertion. -/
abbrev Assoc (κ α : Type) := List (κ × α)

namespace Assoc

variable {κ α : Type} [BEq κ]

/-- Sets the value of a key: in place if the key is there, at the end otherwise. -/
def put (k : κ) (v : α) : Assoc κ α → Assoc κ α
  | [] => [(k, v)]
  | (k', v') :: rest => if k' == k then (k, v) :: rest else (k', v') :: put k v rest

/-- Removes a key. -/
def erase (k : κ) (m : Assoc κ α) : Assoc κ α :=
  m.filter fun e => !(e.1 == k)

/-- The keys in their order. -/
def keys (m : Assoc κ α) : List κ := m.map Prod.fst

/-- Whether a key has an entry. -/
def hasKey (k : κ) (m : Assoc κ α) : Bool := (m.lookup k).isSome

/-- Puts the entries of a list, one after the other. -/
def putAll (entries : List (κ × α)) (m : Assoc κ α) : Assoc κ α :=
  entries.foldl (fun acc e => put e.1 e.2 acc) m

/-! ### What the look-up answers -/

variable [LawfulBEq κ]

theorem hasKey_iff_mem_keys {k : κ} {m : Assoc κ α} : hasKey k m = true ↔ k ∈ keys m := by
  unfold hasKey keys
  induction m with
  | nil => simp
  | cons e rest ih =>
    obtain ⟨k', v⟩ := e
    by_cases h : k = k'
    · subst h
      simp
    · have hb : (k == k') = false := beq_eq_false_iff_ne.2 h
      simp [List.lookup_cons, hb, h, ih]

theorem lookup_put_self (k : κ) (v : α) (m : Assoc κ α) : (put k v m).lookup k = some v := by
  induction m with
  | nil => simp [put]
  | cons e rest ih =>
    obtain ⟨k', v'⟩ := e
    by_cases h : k' = k
    · simp [put, h]
    · have hb : (k == k') = false := beq_eq_false_iff_ne.2 (Ne.symm h)
      simp [put, h, List.lookup_cons, hb, ih]

theorem lookup_put_of_ne {k k' : κ} (h : k' ≠ k) (v : α) (m : Assoc κ α) :
    (put k v m).lookup k' = m.lookup k' := by
  have hb : (k' == k) = false := beq_eq_false_iff_ne.2 h
  induction m with
  | nil => simp [put, List.lookup_cons, hb]
  | cons e rest ih =>
    obtain ⟨k₁, v₁⟩ := e
    by_cases h₁ : k₁ = k
    · subst h₁
      simp [put, List.lookup_cons, hb]
    · simp [put, h₁, List.lookup_cons, ih]

theorem mem_of_lookup {k : κ} {v : α} {m : Assoc κ α} (h : m.lookup k = some v) : (k, v) ∈ m := by
  obtain ⟨before, after, rfl, -⟩ := List.lookup_eq_some_iff.1 h
  simp

theorem keys_put (k : κ) (v : α) (m : Assoc κ α) :
    keys (put k v m) = if k ∈ keys m then keys m else keys m ++ [k] := by
  induction m with
  | nil => rfl
  | cons e rest ih =>
    obtain ⟨k', v'⟩ := e
    unfold keys at ih ⊢
    by_cases h : k' = k
    · subst h
      simp [put]
    · have hb : (k' == k) = false := beq_eq_false_iff_ne.2 h
      simp only [put, hb, Bool.false_eq_true, if_false, List.map_cons, ih, List.mem_cons,
        Ne.symm h, false_or]
      split <;> rfl

theorem put_of_not_mem {k : κ} {m : Assoc κ α} (h : k ∉ keys m) (v : α) :
    put k v m = m ++ [(k, v)] := by
  induction m with
  | nil => rfl
  | cons e rest ih =>
    obtain ⟨k', v'⟩ := e
    have hne : k' ≠ k := fun heq => h (List.mem_cons.2 (.inl heq.symm))
    have hrest : k ∉ keys rest := fun hmem => h (List.mem_cons_of_mem _ hmem)
    have hb : (k' == k) = false := beq_eq_false_iff_ne.2 hne
    rw [put, if_neg (by simp [hb]), ih hrest]
    rfl

/-- What is read off the entries stays if the value of a key is replaced by one that reads alike. -/
theorem map_put_of_lookup {β : Type} {f : κ × α → β} {k : κ} {v v' : α} {m : Assoc κ α}
    (h : m.lookup k = some v') (hf : f (k, v) = f (k, v')) : (put k v m).map f = m.map f := by
  induction m with
  | nil => cases h
  | cons e rest ih =>
    obtain ⟨k₁, v₁⟩ := e
    by_cases h₁ : k₁ = k
    · subst h₁
      have hv : v₁ = v' := by simpa using h
      simp [put, hf, hv]
    · have hb : (k == k₁) = false := beq_eq_false_iff_ne.2 (Ne.symm h₁)
      have hrest : rest.lookup k = some v' := by simpa [List.lookup_cons, hb] using h
      simp [put, h₁, ih hrest]

theorem lookup_erase_self (k : κ) (m : Assoc κ α) : (erase k m).lookup k = none := by
  induction m with
  | nil => rfl
  | cons e rest ih =>
    obtain ⟨k', v'⟩ := e
    unfold erase at ih ⊢
    by_cases h : k' = k
    · simp [h, ih]
    · have hb : (k == k') = false := beq_eq_false_iff_ne.2 (Ne.symm h)
      simp [h, List.lookup_cons, hb, ih]

theorem lookup_erase_of_ne {k k' : κ} (h : k' ≠ k) (m : Assoc κ α) :
    (erase k m).lookup k' = m.lookup k' := by
  have hb : (k' == k) = false := beq_eq_false_iff_ne.2 h
  induction m with
  | nil => rfl
  | cons e rest ih =>
    obtain ⟨k₁, v₁⟩ := e
    unfold erase at ih ⊢
    by_cases h₁ : k₁ = k
    · subst h₁
      simp [List.lookup_cons, hb, ih]
    · simp [h₁, List.lookup_cons, ih]

end Assoc

end CatalogReplication
