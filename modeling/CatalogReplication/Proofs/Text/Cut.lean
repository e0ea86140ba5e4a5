import CatalogReplication.Text.Cut
import Mathlib.Data.List.DropRight

/-!
# What is left of a text that is cut

`cut c` ends its first part where `takeWhile` stops (`cut_fst`), and there is only one way to cut at
the first `c` (`append_cons_inj`). `segments` and `join` are the list functions `splitOn` and
`intercalate` (`segments_eq_splitOn`, `join_eq_intercalate`). `stripHead?` takes off just what was
put in front (`stripHead?_eq_some_iff`). `dropTrailing` leaves the one beginning of a text that
doesn't end in what is dropped, while all behind it is dropped (`dropTrailing_eq_iff`).
-/

namespace CatalogReplication.Text

theorem cut_fst (c : Char) (s : List Char) : (cut c s).1 = s.takeWhile (· != c) := by
  induction s with
  | nil => rfl
  | cons x rest ih =>
    by_cases hx : x = c
    · simp [cut, hx]
    · simp [cut, hx, ih]

theorem cut_fst_subset (c : Char) (s : List Char) : (cut c s).1 ⊆ s := by
  rw [cut_fst]
  exact (List.takeWhile_prefix _).subset

/-- A text has no `c`, or it is cut at the first one. -/
theorem cut_cases (c : Char) (s : List Char) :
    (c ∉ s ∧ cut c s = (s, none)) ∨
      ∃ before after, c ∉ before ∧ s = before ++ c :: after ∧ cut c s = (before, some after) := by
  have hmem := not_mem_cut_fst c s
  rcases hcut : cut c s with ⟨before, _ | after⟩ <;> rw [hcut] at hmem
  · have hs := cut_eq_none (congrArg Prod.snd hcut)
    rw [hcut] at hs
    cases hs
    exact .inl ⟨hmem, rfl⟩
  · have hs := cut_eq_some (congrArg Prod.snd hcut)
    rw [hcut] at hs
    exact .inr ⟨before, after, hmem, hs, rfl⟩

/-- There is only one way to cut a text at its first `c`. -/
theorem append_cons_inj {c : Char} {s s' t t' : List Char} (hs : c ∉ s) (hs' : c ∉ s')
    (h : s ++ c :: t = s' ++ c :: t') : s = s' ∧ t = t' := by
  have hcut := cut_append hs t
  rw [h, cut_append hs' t'] at hcut
  cases hcut
  exact ⟨rfl, rfl⟩

/-! ### All parts -/

theorem segments_eq_splitOn (c : Char) (s : List Char) : segments c s = s.splitOn c := by
  induction s with
  | nil => rfl
  | cons x rest ih =>
    rw [segments, List.splitOn_cons_eq_if_modifyHead, ← ih]
    by_cases hx : x = c
    · simp [hx]
    · have hne := segments_ne_nil c rest
      cases hrest : segments c rest with
      | nil => exact absurd hrest hne
      | cons s ss => simp [hx]

theorem join_eq_intercalate (c : Char) (ss : List (List Char)) :
    join c ss = [c].intercalate ss := by
  induction ss with
  | nil => rfl
  | cons s rest ih =>
    cases rest with
    | nil => simp [join]
    | cons s' rest =>
      rw [List.intercalate_cons_cons, ← ih]
      simp [join]

theorem not_mem_of_mem_segments {c : Char} {s part : List Char} (h : part ∈ segments c s) :
    c ∉ part := by
  induction s generalizing part with
  | nil =>
    rw [segments, List.mem_singleton] at h
    simp [h]
  | cons x rest ih =>
    rw [segments] at h
    split at h
    · rcases List.mem_cons.1 h with rfl | h
      · simp
      · exact ih h
    · rename_i hx
      cases hrest : segments c rest with
      | nil => exact absurd hrest (segments_ne_nil c rest)
      | cons s ss =>
        rw [hrest] at h ih
        rcases List.mem_cons.1 h with rfl | h
        · have hs := ih List.mem_cons_self
          exact fun hc => (List.mem_cons.1 hc).elim (fun heq => hx heq.symm) hs
        · exact ih (List.mem_cons_of_mem s h)

/-! ### What is taken off -/

theorem stripHead?_eq_some_iff {head s rest : List Char} :
    stripHead? head s = some rest ↔ s = head ++ rest := by
  induction head generalizing s with
  | nil => simp [stripHead?]
  | cons c head ih =>
    cases s with
    | nil => simp [stripHead?]
    | cons x s =>
      by_cases hc : c = x
      · simp [stripHead?, hc, ih]
      · simp [stripHead?, hc, Ne.symm hc]

theorem dropTrailing_eq_rdropWhile (p : Char → Bool) (s : List Char) :
    dropTrailing p s = s.rdropWhile p := rfl

theorem dropTrailing_append {p : Char → Bool} {u : List Char} (hu : ∀ c ∈ u, p c = true)
    (s : List Char) : dropTrailing p (s ++ u) = dropTrailing p s := by
  unfold dropTrailing
  rw [List.reverse_append, List.dropWhile_append_of_pos fun c hc => hu c (List.mem_reverse.1 hc)]

theorem dropTrailing_eq_iff {p : Char → Bool} {s t : List Char} :
    dropTrailing p s = t ↔
      (∃ u, s = t ++ u ∧ ∀ c ∈ u, p c = true) ∧ ∀ c, t.getLast? = some c → p c = false := by
  constructor
  · rintro rfl
    rw [dropTrailing_eq_rdropWhile]
    refine ⟨⟨s.rtakeWhile p, ?_, fun c hc => List.mem_rtakeWhile_imp hc⟩, fun c hc => ?_⟩
    · rw [List.rdropWhile_append_rtakeWhile]
    · have hne : s.rdropWhile p ≠ [] := fun hnil => by simp [hnil] at hc
      have hlast := List.rdropWhile_last_not p s hne
      rw [List.getLast?_eq_some_getLast hne, Option.some.injEq] at hc
      simpa [hc] using hlast
  · rintro ⟨⟨u, rfl, hu⟩, hlast⟩
    rw [dropTrailing_append hu, dropTrailing_eq_rdropWhile, List.rdropWhile_eq_self_iff]
    intro hne
    have hkept := hlast _ (List.getLast?_eq_some_getLast hne)
    simp [hkept]

end CatalogReplication.Text
