import CatalogReplication.Lock.Registry
import Mathlib.Logic.Function.Basic

/-!
# What the lock registry says

A registry is exact for given numbers of holders and of waiting requests (`Registry.Exact`) if it
says of each key how many hold it shared, whether one holds it exclusively, and how many requests
wait to do so. Granting a lock that can be granted, giving one back, and beginning and ending a wait
keep it exact for the numbers that follow.

What makes a request grantable is a matter of its key alone. Granting a lock and beginning a wait
never make another request grantable (`Registry.grants_of_grant`, `Registry.grants_of_startWaiting`);
ending the wait of an exclusive request may, but only if none is left that waits for the key
(`Registry.grants_of_stopWaiting`).
-/

namespace CatalogReplication.Lock

/-- A map that says of each key how many there are; a key of which there is none isn't in it. -/
def Tallies (m : Assoc String Nat) (count : String → Nat) : Prop :=
  ∀ k, m.lookup k = if count k = 0 then none else some (count k)

section Tallies

variable {m : Assoc String Nat} {count : String → Nat}

theorem Tallies.hasKey_eq_false_iff (h : Tallies m count) (k : String) :
    Assoc.hasKey k m = false ↔ count k = 0 := by
  unfold Assoc.hasKey
  rw [h k]
  split <;> simp_all

theorem Tallies.getD_lookup (h : Tallies m count) (k : String) :
    (m.lookup k).getD 0 = count k := by
  rw [h k]
  split <;> simp_all

theorem Tallies.increment (h : Tallies m count) (k : String) :
    Tallies (Registry.increment k m) (Function.update count k (count k + 1)) := by
  intro k'
  unfold Registry.increment
  by_cases hk : k' = k
  · subst hk
    rw [Assoc.lookup_put_self, Function.update_self, h.getD_lookup, if_neg (Nat.succ_ne_zero _)]
  · rw [Assoc.lookup_put_of_ne hk, Function.update_of_ne hk]
    exact h k'

theorem Tallies.decrement (h : Tallies m count) {k : String} (hk : 0 < count k) :
    Tallies (Registry.decrement k m) (Function.update count k (count k - 1)) := by
  have hlookup : m.lookup k = some (count k) := by rw [h k, if_neg (Nat.ne_of_gt hk)]
  intro k'
  unfold Registry.decrement
  rw [hlookup]
  match hn : count k, hk with
  | 1, _ =>
    by_cases hk' : k' = k
    · subst hk'
      simp [Assoc.lookup_erase_self]
    · simp only [Assoc.lookup_erase_of_ne hk', Function.update_of_ne hk']
      exact h k'
  | n + 2, _ =>
    by_cases hk' : k' = k
    · subst hk'
      simp [Assoc.lookup_put_self]
    · simp only [Assoc.lookup_put_of_ne hk', Function.update_of_ne hk']
      exact h k'

/-- Tallies depend on the numbers of the keys only. -/
theorem Tallies.congr {count' : String → Nat} (h : Tallies m count)
    (hcount : ∀ k, count k = count' k) : Tallies m count' := funext hcount ▸ h

end Tallies

/-! ### Numbers of locks -/

/-- Setting the number of a lock, seen among the locks of its kind. -/
theorem update_lock (f : Requirement → Nat) (kind : Kind) (k : String) (n : Nat) (k' : String) :
    Function.update f ⟨kind, k⟩ n ⟨kind, k'⟩ =
      Function.update (fun k => f ⟨kind, k⟩) k n k' := by
  by_cases hk : k' = k
  · subst hk
    rw [Function.update_self, Function.update_self]
  · rw [Function.update_of_ne hk, Function.update_of_ne (by simpa using hk)]

/-- Setting the number of a lock changes nothing among the locks of the other kind. -/
theorem update_lock_of_ne {kind kind' : Kind} (h : kind' ≠ kind) (f : Requirement → Nat)
    (k : String) (n : Nat) (k' : String) :
    Function.update f ⟨kind, k⟩ n ⟨kind', k'⟩ = f ⟨kind', k'⟩ :=
  Function.update_of_ne (fun heq => h (congrArg Requirement.kind heq)) _ _

namespace Registry

/-- A registry that is right about who holds and who waits for the locks: `held` says how many hold
a lock, `waits` how many wait for one. -/
structure Exact (g : Registry) (held waits : Requirement → Nat) : Prop where
  shared : Tallies g.shared fun k => held ⟨.shared, k⟩
  mem_exclusive : ∀ k, k ∈ g.exclusive ↔ held ⟨.exclusive, k⟩ = 1
  le_one : ∀ k, held ⟨.exclusive, k⟩ ≤ 1
  alone : ∀ k, held ⟨.exclusive, k⟩ = 1 → held ⟨.shared, k⟩ = 0
  waiting : Tallies g.waiting fun k => waits ⟨.exclusive, k⟩

section

variable {g : Registry} {held waits : Requirement → Nat} {r r' : Requirement}

theorem exact_empty : Exact {} (fun _ => 0) fun _ => 0 where
  shared _ := rfl
  mem_exclusive k := by simp
  le_one _ := Nat.zero_le _
  alone _ h := absurd h (Nat.zero_ne_one)
  waiting _ := rfl

/-- Which locks can be granted. -/
theorem Exact.grants_iff (h : Exact g held waits) (r : Requirement) :
    g.grants r = true ↔ held ⟨.exclusive, r.key⟩ = 0 ∧
      match r.kind with
      | .shared => waits ⟨.exclusive, r.key⟩ = 0
      | .exclusive => held ⟨.shared, r.key⟩ = 0 := by
  have hexclusive : (!g.exclusive.contains r.key) = true ↔ held ⟨.exclusive, r.key⟩ = 0 := by
    have hmem := h.mem_exclusive r.key
    have hle := h.le_one r.key
    rw [Bool.not_eq_true', List.contains_eq_mem, decide_eq_false_iff_not, hmem]
    omega
  unfold grants
  rw [Bool.and_eq_true, hexclusive]
  obtain ⟨kind, k⟩ := r
  cases kind with
  | shared => rw [Bool.not_eq_true', h.waiting.hasKey_eq_false_iff]
  | exclusive => rw [Bool.not_eq_true', h.shared.hasKey_eq_false_iff]

theorem Exact.grant (h : Exact g held waits) (hg : g.grants r = true) :
    Exact (g.grant r) (Function.update held r (held r + 1)) waits := by
  obtain ⟨hfree, hkind⟩ := (h.grants_iff r).1 hg
  obtain ⟨kind, k⟩ := r
  simp only at hfree hkind
  cases kind with
  | shared =>
    have hexclusive := update_lock_of_ne (show Kind.exclusive ≠ .shared by decide) held k
      (held ⟨.shared, k⟩ + 1)
    refine ⟨(h.shared.increment k).congr fun k' => (update_lock _ _ _ _ _).symm,
      fun k' => (h.mem_exclusive k').trans (by rw [hexclusive]),
      fun k' => (hexclusive k').symm ▸ h.le_one k', fun k' hk' => ?_, h.waiting⟩
    rw [hexclusive] at hk'
    have hk : k' ≠ k := by
      rintro rfl
      omega
    rw [update_lock, Function.update_of_ne hk]
    exact h.alone k' hk'
  | exclusive =>
    have hshared := update_lock_of_ne (show Kind.shared ≠ .exclusive by decide) held k
      (held ⟨.exclusive, k⟩ + 1)
    refine ⟨h.shared.congr fun k' => (hshared k').symm, fun k' => ?_, fun k' => ?_,
      fun k' hk' => ?_, h.waiting⟩
    · show k' ∈ g.exclusive ++ [k] ↔ _
      rw [List.mem_append, List.mem_singleton, h.mem_exclusive k', update_lock]
      by_cases hk : k' = k
      · subst hk
        simp [hfree]
      · simp [hk]
    · rw [update_lock]
      by_cases hk : k' = k
      · subst hk
        simp [hfree]
      · rw [Function.update_of_ne hk]
        exact h.le_one k'
    · rw [hshared]
      rw [update_lock] at hk'
      by_cases hk : k' = k
      · subst hk
        exact hkind
      · rw [Function.update_of_ne hk] at hk'
        exact h.alone k' hk'

theorem Exact.giveBack (h : Exact g held waits) (hr : 0 < held r) :
    Exact (g.giveBack r) (Function.update held r (held r - 1)) waits := by
  obtain ⟨kind, k⟩ := r
  cases kind with
  | shared =>
    have hexclusive := update_lock_of_ne (show Kind.exclusive ≠ .shared by decide) held k
      (held ⟨.shared, k⟩ - 1)
    refine ⟨(h.shared.decrement hr).congr fun k' => (update_lock _ _ _ _ _).symm,
      fun k' => (h.mem_exclusive k').trans (by rw [hexclusive]),
      fun k' => (hexclusive k').symm ▸ h.le_one k', fun k' hk' => ?_, h.waiting⟩
    rw [hexclusive] at hk'
    have halone := h.alone k' hk'
    have hk : k' ≠ k := by
      rintro rfl
      omega
    rw [update_lock, Function.update_of_ne hk]
    exact halone
  | exclusive =>
    have hone : held ⟨.exclusive, k⟩ - 1 = 0 := Nat.sub_eq_zero_of_le (h.le_one k)
    have hshared := update_lock_of_ne (show Kind.shared ≠ .exclusive by decide) held k
      (held ⟨.exclusive, k⟩ - 1)
    refine ⟨h.shared.congr fun k' => (hshared k').symm, fun k' => ?_, fun k' => ?_,
      fun k' hk' => ?_, h.waiting⟩
    · show k' ∈ g.exclusive.filter (fun k' => k' != k) ↔ _
      rw [List.mem_filter, h.mem_exclusive k', update_lock]
      by_cases hk : k' = k
      · subst hk
        simp [hone]
      · simp [hk]
    · rw [update_lock]
      by_cases hk : k' = k
      · subst hk
        simp [hone]
      · rw [Function.update_of_ne hk]
        exact h.le_one k'
    · rw [hshared]
      rw [update_lock] at hk'
      by_cases hk : k' = k
      · subst hk
        rw [Function.update_self, hone] at hk'
        exact absurd hk' Nat.zero_ne_one
      · rw [Function.update_of_ne hk] at hk'
        exact h.alone k' hk'

/-- A wait changes the tally of the exclusive requests, and only for one of these. -/
theorem Exact.startWaiting (h : Exact g held waits) (r : Requirement) :
    Exact (g.startWaiting r) held (Function.update waits r (waits r + 1)) := by
  obtain ⟨kind, k⟩ := r
  cases kind with
  | shared =>
    exact { h with waiting := h.waiting.congr fun k' =>
      (update_lock_of_ne (by decide) _ _ _ k').symm }
  | exclusive =>
    exact { h with waiting := (h.waiting.increment k).congr fun k' =>
      (update_lock _ _ _ _ k').symm }

theorem Exact.stopWaiting (h : Exact g held waits) (hr : 0 < waits r) :
    Exact (g.stopWaiting r) held (Function.update waits r (waits r - 1)) := by
  obtain ⟨kind, k⟩ := r
  cases kind with
  | shared =>
    exact { h with waiting := h.waiting.congr fun k' =>
      (update_lock_of_ne (by decide) _ _ _ k').symm }
  | exclusive =>
    exact { h with waiting := (h.waiting.decrement hr).congr fun k' =>
      (update_lock _ _ _ _ k').symm }

/-! ### What makes a request grantable -/

/-- Whether the end of a wait, with this registry afterwards, makes everybody look again. -/
def notifies (r : Requirement) (g : Registry) : Bool :=
  decide (r.kind = .exclusive) && !Assoc.hasKey r.key g.waiting

theorem notifies_grant (r : Requirement) (g : Registry) :
    notifies r (g.grant r) = notifies r g := by
  obtain ⟨kind, k⟩ := r
  cases kind <;> rfl

theorem hasKey_increment (k k' : String) (m : Assoc String Nat) :
    Assoc.hasKey k' (increment k m) = (decide (k' = k) || Assoc.hasKey k' m) := by
  unfold increment Assoc.hasKey
  by_cases h : k' = k
  · subst h
    simp [Assoc.lookup_put_self]
  · simp [Assoc.lookup_put_of_ne h, h]

theorem hasKey_decrement_of_ne {k k' : String} (h : k' ≠ k) (m : Assoc String Nat) :
    Assoc.hasKey k' (decrement k m) = Assoc.hasKey k' m := by
  unfold decrement Assoc.hasKey
  split
  · rw [Assoc.lookup_put_of_ne h]
  · rw [Assoc.lookup_erase_of_ne h]

theorem grants_stopWaiting_self (r : Requirement) (g : Registry) :
    (g.stopWaiting r).grants r = g.grants r := by
  obtain ⟨kind, k⟩ := r
  cases kind <;> rfl

theorem grants_of_grant (h : (g.grant r).grants r' = true) : g.grants r' = true := by
  obtain ⟨kind, k⟩ := r
  obtain ⟨kind', k'⟩ := r'
  cases kind <;> cases kind' <;> simp_all [grants, grant, hasKey_increment]

theorem grants_of_startWaiting (h : (g.startWaiting r).grants r' = true) :
    g.grants r' = true := by
  obtain ⟨kind, k⟩ := r
  obtain ⟨kind', k'⟩ := r'
  cases kind <;> cases kind' <;> simp_all [grants, startWaiting, hasKey_increment]

/-- As long as an exclusive request waits for a key, the end of a wait makes no request for the key
grantable. -/
theorem grants_of_stopWaiting (hr : notifies r (g.stopWaiting r) = false)
    (h : (g.stopWaiting r).grants r' = true) : g.grants r' = true := by
  obtain ⟨kind, k⟩ := r
  obtain ⟨kind', k'⟩ := r'
  cases kind with
  | shared => exact h
  | exclusive =>
    cases kind' with
    | exclusive => exact h
    | shared =>
      have hk : k' ≠ k := by
        rintro rfl
        simp_all [notifies, grants, stopWaiting]
      simp only [grants, stopWaiting, hasKey_decrement_of_ne hk] at h ⊢
      exact h

end

end Registry

end CatalogReplication.Lock
