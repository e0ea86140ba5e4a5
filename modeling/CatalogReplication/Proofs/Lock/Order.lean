import CatalogReplication.Lock.Requirement
import Mathlib.Data.List.Basic
import Mathlib.Data.Prod.Lex

/-!
# The order of lock requirements

Requirements are ordered by a rank, the numbers of the characters of their key and then their kind
(`Requirement.before_iff`). A lock set lists its requirements by increasing rank, so it is the one
such list of what is in it (`LockSet.ext_mem`), and what two lists of this kind have in common
stands in them in one order (`Requirement.filter_mem_comm`).
-/

namespace CatalogReplication.Lock

/-- The place of a kind among the locks of one key. -/
def Kind.rank : Kind → Nat
  | .shared => 0
  | .exclusive => 1

namespace Requirement

/-- What requirements are ordered by: the numbers of the characters of the key, then the kind. -/
def rank (r : Requirement) : List Nat ×ₗ Nat :=
  toLex (r.key.toList.map Char.toNat, r.kind.rank)

theorem map_toNat_lt_iff {s t : List Char} : s.map Char.toNat < t.map Char.toNat ↔ s < t := by
  induction s generalizing t with
  | nil => cases t <;> simp
  | cons c s ih =>
    cases t with
    | nil => simp
    | cons c' t =>
      rw [List.map_cons, List.map_cons, List.cons_lt_cons_iff, List.cons_lt_cons_iff, ih,
        Char.toNat_inj]
      rfl

theorem map_toNat_inj {s t : List Char} : s.map Char.toNat = t.map Char.toNat ↔ s = t :=
  (List.map_injective_iff.2 fun _ _ => Char.toNat_inj.1).eq_iff

variable {a b : Requirement} {l m : List Requirement}

theorem before_iff : a.Before b ↔ a.rank < b.rank := by
  have hkind : a.kind = .shared ∧ b.kind = .exclusive ↔ a.kind.rank < b.kind.rank := by
    cases a.kind <;> cases b.kind <;> decide
  rw [rank, rank, Prod.Lex.toLex_lt_toLex, map_toNat_lt_iff, map_toNat_inj, String.toList_inj,
    ← String.lt_iff, ← hkind, Before]

theorem not_before_self (a : Requirement) : ¬ a.Before a := by
  rintro (hkey | ⟨-, hshared, hexclusive⟩)
  · exact String.lt_irrefl _ hkey
  · exact absurd (hshared.symm.trans hexclusive) (by decide)

theorem not_before_before (hab : a.Before b) : ¬ b.Before a :=
  fun hba => not_before_self a (before_trans hab hba)

theorem nodup_of_pairwise (h : l.Pairwise Before) : l.Nodup := by
  refine List.Pairwise.imp ?_ h
  rintro a b hab rfl
  exact not_before_self a hab

/-- There is one way to list requirements in their order. -/
theorem eq_of_pairwise (hl : l.Pairwise Before) (hm : m.Pairwise Before)
    (h : ∀ r, r ∈ l ↔ r ∈ m) : l = m := by
  have hperm : l.Perm m :=
    (List.perm_ext_iff_of_nodup (nodup_of_pairwise hl) (nodup_of_pairwise hm)).2 h
  exact hperm.eq_of_pairwise (fun a b _ _ hab hba => absurd hba (not_before_before hab)) hl hm

/-- What two ordered lists have in common stands in both in the same order. -/
theorem filter_mem_comm (hl : l.Pairwise Before) (hm : m.Pairwise Before) :
    l.filter (· ∈ m) = m.filter (· ∈ l) := by
  refine eq_of_pairwise (hl.filter _) (hm.filter _) fun r => ?_
  simp only [List.mem_filter, decide_eq_true_eq]
  exact and_comm

end Requirement

namespace LockSet

theorem nodup (s : LockSet) : s.requirements.Nodup := Requirement.nodup_of_pairwise s.ordered

/-- **Extensionality**: sets with the same requirements are equal. -/
theorem ext_mem {s t : LockSet} (h : ∀ r, r ∈ s.requirements ↔ r ∈ t.requirements) : s = t := by
  have hlists := Requirement.eq_of_pairwise s.ordered t.ordered h
  obtain ⟨l, hl⟩ := s
  obtain ⟨m, hm⟩ := t
  subst hlists
  rfl

theorem ofList_eq_iff {a b : List Requirement} : ofList a = ofList b ↔ ∀ r, r ∈ a ↔ r ∈ b := by
  constructor
  · intro h r
    rw [← mem_ofList, h, mem_ofList]
  · intro h
    refine ext_mem fun r => ?_
    rw [mem_ofList, mem_ofList, h r]

theorem ofList_requirements (s : LockSet) : ofList s.requirements = s :=
  ext_mem fun _ => mem_ofList

end LockSet

end CatalogReplication.Lock
