import CatalogReplication.Spec

/-!
# Lock requirements

A lock is a key, held either shared or exclusively. A lock set is kept in one canonical form: its
requirements in increasing order of their keys, shared before exclusive, each once. All holders take
the locks of a set in that order. `Spec.requiredLocks` says which locks replicating an object needs:
a table excludes its partitions, and partitions exclude only themselves.
-/

namespace CatalogReplication.Lock

/-- How a lock is held. -/
inductive Kind where
  | shared
  | exclusive
deriving DecidableEq, Repr, Inhabited

/-- The name of a kind. -/
def Kind.name : Kind → String
  | .shared => "SHARED"
  | .exclusive => "EXCLUSIVE"

/-- The kind of a name. -/
def Kind.ofName? : String → Option Kind
  | "SHARED" => some .shared
  | "EXCLUSIVE" => some .exclusive
  | _ => none

/-- A lock that has to be held. -/
structure Requirement where
  kind : Kind
  key : String
deriving DecidableEq, Repr, Inhabited

namespace Requirement

/-- The text of a requirement. -/
def text (r : Requirement) : String := s!"{r.kind.name}({r.key})"

/-- The order in which locks are taken: by key, and shared before exclusive. -/
def Before (a b : Requirement) : Prop :=
  a.key < b.key ∨ a.key = b.key ∧ a.kind = .shared ∧ b.kind = .exclusive

instance : DecidableRel Before := fun a b => by unfold Before; infer_instance

theorem before_trans {a b c : Requirement} (hab : a.Before b) (hbc : b.Before c) : a.Before c := by
  rcases hab with h | ⟨hk, ha, hb⟩
  · rcases hbc with h' | ⟨hk', -, -⟩
    · exact .inl (String.lt_trans h h')
    · exact .inl (hk' ▸ h)
  · rcases hbc with h' | ⟨-, hb', -⟩
    · exact .inl (hk ▸ h')
    · exact absurd (hb.symm.trans hb') (by decide)

theorem eq_of_not_before {a b : Requirement} (h : ¬ a.Before b) (h' : ¬ b.Before a) : a = b := by
  obtain ⟨ka, a⟩ := a
  obtain ⟨kb, b⟩ := b
  simp only [Before, not_or] at h h'
  have hk : a = b := String.le_antisymm (String.not_lt.1 h'.1) (String.not_lt.1 h.1)
  subst hk
  cases ka <;> cases kb <;> simp_all

end Requirement

/-- A set of requirements in the order in which they are taken. -/
structure LockSet where
  requirements : List Requirement := []
  ordered : requirements.Pairwise Requirement.Before := by exact List.Pairwise.nil
deriving DecidableEq, Repr

namespace LockSet

instance : Inhabited LockSet := ⟨{}⟩

/-- Puts a requirement at its place, unless it is there. -/
def place (r : Requirement) : List Requirement → List Requirement
  | [] => [r]
  | r' :: rest =>
    if r.Before r' then r :: r' :: rest
    else if r'.Before r then r' :: place r rest
    else r' :: rest

theorem mem_place {r x : Requirement} {l : List Requirement} :
    x ∈ place r l ↔ x = r ∨ x ∈ l := by
  induction l with
  | nil => simp [place]
  | cons r' rest ih =>
    unfold place
    split
    · simp
    · split
      · simp only [List.mem_cons, ih]
        constructor
        · rintro (h | h | h) <;> simp [h]
        · rintro (h | h | h) <;> simp [h]
      · rename_i h h'
        have he := Requirement.eq_of_not_before h h'
        subst he
        simp

theorem pairwise_place (r : Requirement) {l : List Requirement}
    (h : l.Pairwise Requirement.Before) : (place r l).Pairwise Requirement.Before := by
  induction l with
  | nil => simp [place]
  | cons r' rest ih =>
    obtain ⟨hlt, hrest⟩ := List.pairwise_cons.1 h
    unfold place
    split
    · rename_i hb
      refine List.pairwise_cons.2 ⟨fun x hx => ?_, h⟩
      rcases List.mem_cons.1 hx with rfl | hx
      · exact hb
      · exact Requirement.before_trans hb (hlt x hx)
    · split
      · rename_i hb
        refine List.pairwise_cons.2 ⟨fun x hx => ?_, ih hrest⟩
        rcases mem_place.1 hx with rfl | hx
        · exact hb
        · exact hlt x hx
      · exact h

/-- Adds a requirement. -/
def insert (r : Requirement) (s : LockSet) : LockSet :=
  ⟨place r s.requirements, pairwise_place r s.ordered⟩

/-- The set of the requirements in a list. -/
def ofList (rs : List Requirement) : LockSet := rs.foldr insert {}

/-- Whether a requirement is in a set. -/
def contains (r : Requirement) (s : LockSet) : Bool := decide (r ∈ s.requirements)

/-- The text of a set. -/
def text (s : LockSet) : String :=
  "\x7b" ++ ", ".intercalate (s.requirements.map Requirement.text) ++ "\x7d"

theorem mem_ofList {x : Requirement} {rs : List Requirement} :
    x ∈ (ofList rs).requirements ↔ x ∈ rs := by
  induction rs with
  | nil => simp [ofList]
  | cons r rest ih =>
    rw [List.mem_cons, ← ih]
    exact mem_place

end LockSet

end CatalogReplication.Lock

namespace CatalogReplication

/-- The locks that replicating an object needs. -/
def Spec.requiredLocks (s : Spec) : Lock.LockSet :=
  if s.isPartition then
    .ofList [⟨.shared, s.tableSpec.text⟩, ⟨.exclusive, s.text⟩]
  else .ofList [⟨.exclusive, s.tableSpec.text⟩]

end CatalogReplication
