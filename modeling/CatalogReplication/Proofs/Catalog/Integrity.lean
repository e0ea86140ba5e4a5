import CatalogReplication.Proofs.Catalog.Kind

/-!
# Integrity of catalogs

Whatever is asked of a catalog that began empty, its records hang together: every table is in a
database and every partition of a table, nothing is kept twice, and no two records of a sort share a
number. The names of partitions are those that were added, in strictly increasing order, and a
request that fails leaves no trace (`upholds`). Each accepted request keeps the register intact,
and the rest follows by induction on the requests.
-/

namespace CatalogReplication.Catalog

/-! ### The names of partitions -/

theorem mem_namesOf {k : Spec} {specs : List Spec} {name : String} :
    name ∈ namesOf k specs ↔ { k.tableSpec with partition := some name } ∈ specs := by
  unfold namesOf
  rw [(List.mergeSort_perm _ _).mem_iff, List.mem_filterMap]
  constructor
  · rintro ⟨s, hs, hname⟩
    split at hname
    · have htable : s.tableSpec = k.tableSpec := ‹_›
      have heq : s = { s.tableSpec with partition := some name } := by
        rw [← hname]
        rfl
      rw [← htable, ← heq]
      exact hs
    · cases hname
  · intro hmem
    exact ⟨_, hmem, if_pos rfl⟩

theorem nodup_namesOf {k : Spec} {specs : List Spec} (h : specs.Nodup) :
    (namesOf k specs).Nodup := by
  refine (List.mergeSort_perm _ _).nodup_iff.2 (h.filterMap ?_)
  intro s s' name hs hs'
  -- Both are the partition of that name of the one table.
  have hof : ∀ {s : Spec}, (name ∈ if s.tableSpec = k.tableSpec then s.partition else none) →
      s = { k.tableSpec with partition := some name } := by
    intro s hs
    split at hs
    · have htable : s.tableSpec = k.tableSpec := ‹_›
      have hname : s.partition = some name := hs
      rw [← htable, ← hname]
      rfl
    · cases hs
  rw [hof hs, hof hs']

theorem pairwise_namesOf {k : Spec} {specs : List Spec} (h : specs.Nodup) :
    (namesOf k specs).Pairwise (· < ·) := by
  have htrans : ∀ a b c : String, (!decide (b < a)) = true → (!decide (c < b)) = true →
      (!decide (c < a)) = true := by
    intro a b c hab hbc
    simp only [Bool.not_eq_true', decide_eq_false_iff_not, String.not_lt] at hab hbc ⊢
    exact String.le_trans hab hbc
  have htotal : ∀ a b : String, (!decide (b < a) || !decide (a < b)) = true := by
    intro a b
    simp only [Bool.or_eq_true, Bool.not_eq_true', decide_eq_false_iff_not, String.not_lt]
    exact String.le_total a b
  -- The names are sorted, and strictly so since none of them occurs twice.
  have hsorted : (namesOf k specs).Pairwise fun a b => (!decide (b < a)) = true :=
    List.pairwise_mergeSort htrans htotal _
  have hne : (namesOf k specs).Pairwise (· ≠ ·) := nodup_namesOf h
  refine (hsorted.and hne).imp ?_
  rintro a b ⟨hle, hne⟩
  simp only [Bool.not_eq_true', decide_eq_false_iff_not] at hle
  by_contra hlt
  exact hne (String.le_antisymm (String.not_lt.1 hle) (String.not_lt.1 hlt))

/-! ### Histories -/

namespace Kind

variable (K : Kind)

/-- A catalog after requests, each served on its occasion. -/
def after (history : List (K.Occasion × Request)) (s : K.State) : K.State :=
  history.foldl (fun s x => (K.serve x.1 x.2 s).2) s

/-- The partitions that accepted requests add on the way, in their order. -/
def added : List (K.Occasion × Request) → K.State → List Spec
  | [], _ => []
  | (o, r) :: history, s =>
    let later := added history (K.serve o r s).2
    match (K.serve o r s).1 with
    | .ok _ => r.newPartition?.toList ++ later
    | .error _ => later

/-- What is promised of a catalog that began empty, after a history. -/
structure Upholds (history : List (K.Occasion × Request)) (s : K.State) : Prop where
  lists : (K.register s).Lists (K.view s)
  intact : (K.register s).Intact
  names : ∀ o k, ∃ names, (K.serve o (.listPartitionNames k) s).1 = .ok names ∧
    names.Pairwise (· < ·) ∧ ∀ name, name ∈ names ↔
      { k.tableSpec with partition := some name } ∈ K.added history K.empty
  atomic : ∀ o r e, (K.serve o r s).1 = .error e → (K.serve o r s).2 = s

variable {K}

theorem sound_after {s : K.State} (h : K.Sound s) (history : List (K.Occasion × Request)) :
    K.Sound (K.after history s) := by
  induction history generalizing s with
  | nil => exact h
  | cons x history ih => exact ih (K.sound_serve x.1 x.2 h)

theorem intact_serve {s : K.State} (h : K.Sound s) (hintact : (K.register s).Intact)
    (o : K.Occasion) (r : Request) : (K.register (K.serve o r s).2).Intact := by
  cases ha : (K.serve o r s).1 with
  | error e =>
    rw [K.refused h ha]
    exact hintact
  | ok a =>
    obtain ⟨n, hadmits, hregister⟩ := K.entered h ha
    rw [hregister]
    exact hintact.enter hadmits

theorem intact_after {s : K.State} (h : K.Sound s) (hintact : (K.register s).Intact)
    (history : List (K.Occasion × Request)) : (K.register (K.after history s)).Intact := by
  induction history generalizing s with
  | nil => exact hintact
  | cons x history ih => exact ih (K.sound_serve x.1 x.2 h) (intact_serve h hintact x.1 x.2)

/-- The partitions of a catalog are those that it had and those that were added. -/
theorem partitionSpecs_after {s : K.State} (h : K.Sound s)
    (history : List (K.Occasion × Request)) :
    (K.register (K.after history s)).partitionSpecs =
      (K.register s).partitionSpecs ++ K.added history s := by
  induction history generalizing s with
  | nil => exact (List.append_nil _).symm
  | cons x history ih =>
    obtain ⟨o, r⟩ := x
    have hlater := ih (K.sound_serve o r h)
    have hafter : K.after ((o, r) :: history) s = K.after history (K.serve o r s).2 := rfl
    rw [hafter, hlater, added]
    cases ha : (K.serve o r s).1 with
    | error e => rw [K.refused h ha]
    | ok a =>
      obtain ⟨n, -, hregister⟩ := K.entered h ha
      rw [hregister, Register.partitionSpecs_enter, List.append_assoc]

theorem upholds_after (history : List (K.Occasion × Request)) :
    K.Upholds history (K.after history K.empty) := by
  have hempty : (K.register K.empty).Intact := by
    rw [K.register_empty]
    exact Register.intact_empty
  have hsound := sound_after K.sound_empty history
  have hintact := intact_after K.sound_empty hempty history
  refine ⟨K.lists hsound, hintact, ?_, fun o r e => K.refused hsound⟩
  intro o k
  refine ⟨_, K.listed o k hsound, pairwise_namesOf hintact.partitions.specs, ?_⟩
  intro name
  rw [mem_namesOf, partitionSpecs_after K.sound_empty, K.register_empty]
  rfl

end Kind

/-- **Catalogs keep their integrity**: after any history, a keyed and a relational catalog uphold
what is promised; in a keyed catalog, a table and a partition don't share a number either. -/
theorem upholds (history : List (Kind.keyed.Occasion × Request))
    (history' : List (Kind.relational.Occasion × Request)) :
    Kind.keyed.Upholds history (Kind.keyed.after history {}) ∧
      (Kind.keyed.register (Kind.keyed.after history {})).numbers.Nodup ∧
      Kind.relational.Upholds history' (Kind.relational.after history' {}) := by
  have hnumbered : Keyed.Numbered (Kind.keyed.after history {}) :=
    Kind.sound_after Kind.keyed.sound_empty history
  exact ⟨Kind.upholds_after history, hnumbered.distinct, Kind.upholds_after history'⟩

end CatalogReplication.Catalog
