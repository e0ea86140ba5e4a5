/-!
# Cutting text at a character

`cut c s` is what stands before the first `c` and, if there is one, what follows it; `segments c s`
cuts at every `c`. Nothing is lost: joining the parts again gives the text.
-/

namespace CatalogReplication.Text

/-- What stands before the first `c`, and what follows it if there is one. -/
def cut (c : Char) : List Char → List Char × Option (List Char)
  | [] => ([], none)
  | x :: rest =>
    if x = c then ([], some rest)
    else ((x :: (cut c rest).1), (cut c rest).2)

/-- The parts of a text between the occurrences of `c`; there is always at least one. -/
def segments (c : Char) : List Char → List (List Char)
  | [] => [[]]
  | x :: rest =>
    if x = c then [] :: segments c rest
    else
      match segments c rest with
      | [] => [[x]]
      | s :: ss => (x :: s) :: ss

/-- Puts parts together again, with `c` between them. -/
def join (c : Char) : List (List Char) → List Char
  | [] => []
  | [s] => s
  | s :: ss => s ++ c :: join c ss

/-- Removes the longest run at the end that satisfies `p`. -/
def dropTrailing (p : Char → Bool) (s : List Char) : List Char :=
  (s.reverse.dropWhile p).reverse

/-- `s` without `head` at its beginning, if it begins with it. -/
def stripHead? : List Char → List Char → Option (List Char)
  | [], s => some s
  | _ :: _, [] => none
  | c :: head, x :: s => if c = x then stripHead? head s else none

/-! ### Nothing is lost -/

theorem cut_eq_none {c : Char} {s : List Char} (h : (cut c s).2 = none) : (cut c s).1 = s := by
  induction s with
  | nil => rfl
  | cons x rest ih =>
    by_cases hx : x = c
    · simp [cut, hx] at h
    · simp only [cut, hx, ↓reduceIte] at h ⊢
      rw [ih h]

theorem cut_eq_some {c : Char} {s t : List Char} (h : (cut c s).2 = some t) :
    s = (cut c s).1 ++ c :: t := by
  induction s with
  | nil => simp [cut] at h
  | cons x rest ih =>
    by_cases hx : x = c
    · simp only [cut, hx, ↓reduceIte, Option.some.injEq] at h ⊢
      simp [h]
    · simp only [cut, hx, ↓reduceIte] at h ⊢
      rw [List.cons_append, ← ih h]

theorem not_mem_cut_fst (c : Char) (s : List Char) : c ∉ (cut c s).1 := by
  induction s with
  | nil => simp [cut]
  | cons x rest ih =>
    by_cases hx : x = c
    · simp [cut, hx]
    · simp only [cut, hx, ↓reduceIte, List.mem_cons, not_or]
      exact ⟨fun h => hx h.symm, ih⟩

theorem cut_of_not_mem {c : Char} {s : List Char} (h : c ∉ s) : cut c s = (s, none) := by
  induction s with
  | nil => rfl
  | cons x rest ih =>
    obtain ⟨hx, hrest⟩ := not_or.1 (mt List.mem_cons.2 h)
    simp [cut, Ne.symm hx, ih hrest]

theorem cut_append {c : Char} {s : List Char} (h : c ∉ s) (t : List Char) :
    cut c (s ++ c :: t) = (s, some t) := by
  induction s with
  | nil => simp [cut]
  | cons x rest ih =>
    obtain ⟨hx, hrest⟩ := not_or.1 (mt List.mem_cons.2 h)
    simp [cut, Ne.symm hx, ih hrest]

theorem segments_ne_nil (c : Char) (s : List Char) : segments c s ≠ [] := by
  cases s with
  | nil => simp [segments]
  | cons x rest =>
    unfold segments
    split
    · simp
    · split <;> simp

theorem segments_of_not_mem {c : Char} {s : List Char} (h : c ∉ s) : segments c s = [s] := by
  induction s with
  | nil => rfl
  | cons x rest ih =>
    obtain ⟨hx, hrest⟩ := not_or.1 (mt List.mem_cons.2 h)
    simp [segments, Ne.symm hx, ih hrest]

theorem segments_append {c : Char} {s : List Char} (h : c ∉ s) (t : List Char) :
    segments c (s ++ c :: t) = s :: segments c t := by
  induction s with
  | nil => simp [segments]
  | cons x rest ih =>
    obtain ⟨hx, hrest⟩ := not_or.1 (mt List.mem_cons.2 h)
    simp [segments, Ne.symm hx, ih hrest]

/-- Cutting gives the parts back that were joined. -/
theorem segments_join {c : Char} {ss : List (List Char)} (hne : ss ≠ []) (h : ∀ s ∈ ss, c ∉ s) :
    segments c (join c ss) = ss := by
  induction ss with
  | nil => exact absurd rfl hne
  | cons s rest ih =>
    have hs := h s List.mem_cons_self
    cases rest with
    | nil => exact segments_of_not_mem hs
    | cons s' rest =>
      show segments c (s ++ c :: join c (s' :: rest)) = _
      rw [segments_append hs, ih (by simp) fun x hx => h x (List.mem_cons_of_mem s hx)]

theorem join_segments (c : Char) (s : List Char) : join c (segments c s) = s := by
  induction s with
  | nil => rfl
  | cons x rest ih =>
    unfold segments
    split
    next h =>
      subst h
      cases hs : segments x rest with
      | nil => exact absurd hs (segments_ne_nil x rest)
      | cons s ss => rw [hs] at ih; simp [join, ih]
    next h =>
      cases hs : segments c rest with
      | nil => exact absurd hs (segments_ne_nil c rest)
      | cons s ss =>
        rw [hs] at ih
        cases ss with
        | nil => simpa [join] using ih
        | cons s' ss' => simp only [join] at ih ⊢; simp [← ih]

end CatalogReplication.Text
