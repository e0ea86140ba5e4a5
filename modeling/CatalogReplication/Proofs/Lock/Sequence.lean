import CatalogReplication.Proofs.Lock.Cleanup

/-!
# The order in which holds take their locks

A hold goes through its lock set from front to back, up to the first lock that it doesn't get
(`Desk.takes_departure`). Sets list their requirements in one order; so any two holds take the locks
that they have in common in the same order (`LockSet.canonical`).
-/

namespace CatalogReplication.Lock

namespace Desk

variable {α : Type}

/-- The locks of a list are taken from front to back, up to the first that isn't there to be
taken. -/
inductive Takes : Desk → List Requirement → List Requirement → Prop where
  | all (d : Desk) : Takes d [] []
  | stop {d d' : Desk} {r : Requirement} {rest : List Requirement} {e : Failure}
      (hr : (acquire r).run.run d = (.error e, d')) : Takes d (r :: rest) []
  | next {d d' : Desk} {r : Requirement} {rest taken : List Requirement}
      (hr : (acquire r).run.run d = (.ok (), d')) (hrest : Takes d' rest taken) :
      Takes d (r :: rest) (r :: taken)

theorem Takes.isPrefix {d : Desk} {rs taken : List Requirement} (h : Takes d rs taken) :
    taken <+: rs := by
  induction h with
  | all d => exact List.prefix_rfl
  | stop hr => exact List.nil_prefix
  | next hr _ ih => exact (List.prefix_cons_inj _).2 ih

theorem takes_takeEach (taken rs : List Requirement) (d : Desk) :
    ∃ newly failure d', (takeEach taken rs).run.run d = (.ok (taken ++ newly, failure), d') ∧
      Takes d rs newly := by
  induction rs generalizing taken d with
  | nil =>
    refine ⟨[], none, d, ?_, .all d⟩
    rw [List.append_nil]
    rfl
  | cons r rest ih =>
    rw [run_takeEach_cons]
    rcases hacquire : (acquire r).run.run d with ⟨e | u, d₁⟩
    · refine ⟨[], some e, d₁, ?_, .stop hacquire⟩
      rw [List.append_nil]
    · obtain ⟨newly, failure, d', hrest, htakes⟩ := ih (taken ++ [r]) d₁
      rw [List.append_assoc, List.singleton_append] at hrest
      exact ⟨r :: newly, failure, d', hrest, .next hacquire htakes⟩

/-- A hold has taken the locks of its set from front to back, as far as it came. -/
theorem takes_departure (s : LockSet) (block : AtDesk α) (d : Desk) :
    Takes d s.requirements (departure s block d).taken := by
  obtain ⟨newly, failure, d', hrun, htakes⟩ := takes_takeEach [] s.requirements d
  rw [List.nil_append] at hrun
  have htaken : (departure s block d).taken = newly := by
    rw [departure, hrun]
    cases failure <;> rfl
  rw [htaken]
  exact htakes

theorem pairwise_departure (s : LockSet) (block : AtDesk α) (d : Desk) :
    (departure s block d).taken.Pairwise Requirement.Before :=
  s.ordered.sublist (takes_departure s block d).isPrefix.sublist

end Desk

/-- **A lock set is the canonical form** of the requirements that it was made of: they stand in it
by the numbers of the characters of their keys, shared before exclusive, each once. Sets are equal
just if they were made of the same requirements, in whatever order and however often, and a set that
is made of the requirements of a set is that set. What two sets have in common stands in both in one
order; and since a hold takes the locks of its set from front to back, two holds, on any managers,
take the locks that both of them take in that order. -/
theorem LockSet.canonical :
    (∀ a : List Requirement,
      ((ofList a).requirements.map Requirement.rank).Pairwise (· < ·) ∧
      (∀ r, r ∈ (ofList a).requirements ↔ r ∈ a) ∧ ofList (ofList a).requirements = ofList a) ∧
    (∀ a b : List Requirement, ofList a = ofList b ↔ ∀ r, r ∈ a ↔ r ∈ b) ∧
    (∀ s t : LockSet, s.requirements.filter (· ∈ t.requirements) =
      t.requirements.filter (· ∈ s.requirements)) ∧
    ∀ {α β : Type} (s t : LockSet) (block : AtDesk α) (block' : AtDesk β) (d d' : Desk),
      let taken := (Desk.departure s block d).taken
      let taken' := (Desk.departure t block' d').taken
      Desk.Takes d s.requirements taken ∧
        taken.filter (· ∈ taken') = taken'.filter (· ∈ taken) := by
  refine ⟨fun a => ⟨?_, fun r => mem_ofList, ofList_requirements _⟩, fun a b => ofList_eq_iff,
    fun s t => Requirement.filter_mem_comm s.ordered t.ordered,
    fun s t block block' d d' => ⟨Desk.takes_departure s block d, ?_⟩⟩
  · rw [List.pairwise_map]
    exact (ofList a).ordered.imp Requirement.before_iff.1
  · exact Requirement.filter_mem_comm (Desk.pairwise_departure s block d)
      (Desk.pairwise_departure t block' d')

end CatalogReplication.Lock
