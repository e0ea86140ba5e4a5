import CatalogReplication.Config.Nesting
import Mathlib.Data.List.Count

/-!
# Open blocks

The blocks that are open, the latest first, are all that there is to say of a nesting: what is
current in a thread, what comes back when a block is left and how many blocks a context has, all of
that can be read off them (`Nesting.Fits`). Entering a block puts it before the others
(`Nesting.Fits.enter`), leaving one takes it out (`Nesting.Fits.leave`).
-/

namespace CatalogReplication.Config

/-- Open blocks, the latest first; a block is told by its thread and its context. -/
abbrev Blocks := List (Thread × ContextId)

namespace Blocks

/-- The contexts of the blocks of a thread, the latest first. -/
def ofThread (t : Thread) (bs : Blocks) : List ContextId :=
  (bs.filter fun b => b.1 == t).map Prod.snd

/-- The context of the innermost block of a thread. -/
def innermost? (t : Thread) (bs : Blocks) : Option ContextId := (bs.ofThread t).head?

/-- Whether some thread has a block of a context. -/
def isOpen (c : ContextId) (bs : Blocks) : Bool := bs.any fun b => b.2 == c

/-- How many blocks of a context there are. -/
def count (c : ContextId) (bs : Blocks) : Nat := bs.countP fun b => b.2 == c

/-- What the blocks of a context stand in, one after the other. -/
def around (c : ContextId) : List ContextId → List (Option ContextId)
  | [] => []
  | b :: rest => if b = c then rest.head? :: around c rest else around c rest

variable {t u : Thread} {c d : ContextId} {bs : Blocks}

theorem isOpen_iff : bs.isOpen c = true ↔ ∃ t, (t, c) ∈ bs := by
  simp [isOpen]

theorem count_eq_zero_iff : bs.count c = 0 ↔ bs.isOpen c = false := by
  simp [count, isOpen, List.countP_eq_zero]

theorem ofThread_cons_self : ofThread t ((t, c) :: bs) = c :: bs.ofThread t := by
  simp [ofThread]

theorem ofThread_cons_of_ne (h : u ≠ t) : ofThread u ((t, c) :: bs) = bs.ofThread u := by
  simp [ofThread, Ne.symm h]

/-- Where the innermost block of a thread stands. -/
theorem exists_of_innermost? (h : bs.innermost? t = some c) :
    ∃ later earlier, bs = later ++ (t, c) :: earlier ∧ bs.erase (t, c) = later ++ earlier ∧
      later.ofThread t = [] := by
  obtain ⟨rest, hrest⟩ := List.head?_eq_some_iff.1 h
  obtain ⟨b, filtered, hfilter, hb, -⟩ := List.map_eq_cons_iff.1 hrest
  obtain ⟨later, earlier, rfl, hlater, ht, -⟩ := List.filter_eq_cons_iff.1 hfilter
  obtain ⟨t', c'⟩ := b
  obtain rfl : t' = t := by simpa using ht
  obtain rfl : c' = c := hb
  have hnew : (t', c') ∉ later := fun hmem => hlater _ hmem (by simp)
  refine ⟨later, earlier, rfl, ?_, ?_⟩
  · rw [List.erase_append_right _ hnew, List.erase_cons_head]
  · simpa [ofThread, List.filter_eq_nil_iff] using hlater

theorem ofThread_append (l m : Blocks) : ofThread t (l ++ m) = l.ofThread t ++ m.ofThread t := by
  simp [ofThread]

theorem ofThread_leave (h : bs.innermost? t = some c) :
    bs.ofThread t = c :: ofThread t (bs.erase (t, c)) := by
  obtain ⟨later, earlier, hbs, herase, hlater⟩ := exists_of_innermost? h
  rw [herase, hbs, ofThread_append, ofThread_append, hlater, ofThread_cons_self]
  rfl

theorem ofThread_leave_of_ne (h : bs.innermost? t = some c) (hu : u ≠ t) :
    ofThread u (bs.erase (t, c)) = bs.ofThread u := by
  obtain ⟨later, earlier, hbs, herase, -⟩ := exists_of_innermost? h
  rw [herase, hbs, ofThread_append, ofThread_append, ofThread_cons_of_ne hu]

theorem mem_of_innermost? (h : bs.innermost? t = some c) : (t, c) ∈ bs := by
  obtain ⟨later, earlier, rfl, -, -⟩ := exists_of_innermost? h
  simp

theorem count_cons_self : count c ((t, c) :: bs) = bs.count c + 1 := by
  simp [count]

theorem count_cons_of_ne (h : d ≠ c) : count d ((t, c) :: bs) = bs.count d := by
  simp [count, Ne.symm h]

theorem count_leave (h : (t, c) ∈ bs) : count c (bs.erase (t, c)) = bs.count c - 1 := by
  simp [count, List.countP_erase, h]

theorem count_leave_of_ne (hd : d ≠ c) : count d (bs.erase (t, c)) = bs.count d := by
  simp [count, List.countP_erase, Ne.symm hd]

theorem around_cons_self (rest : List ContextId) :
    around c (c :: rest) = rest.head? :: around c rest := by
  simp [around]

theorem around_cons_of_ne (h : d ≠ c) (rest : List ContextId) :
    around d (c :: rest) = around d rest := by
  simp [around, Ne.symm h]

theorem around_eq_nil {l : List ContextId} (h : c ∉ l) : around c l = [] := by
  induction l with
  | nil => rfl
  | cons b rest ih =>
    rw [List.mem_cons, not_or] at h
    rw [around_cons_of_ne h.1, ih h.2]

theorem not_mem_ofThread (h : bs.isOpen c = false) (t : Thread) : c ∉ bs.ofThread t := by
  intro hmem
  obtain ⟨b, hb, rfl⟩ := List.mem_map.1 hmem
  have hopen := isOpen_iff.2 ⟨b.1, (List.mem_filter.1 hb).1⟩
  rw [h] at hopen
  cases hopen

end Blocks

namespace Nesting

variable {t u : Thread} {c d : ContextId} {o : Option ContextId} {n : Nesting} {bs : Blocks}

/-- A nesting as it is with some open blocks. It has no entry for what has no block. -/
structure Fits (bs : Blocks) (n : Nesting) : Prop where
  current : ∀ t, n.current? t = bs.innermost? t
  outer : ∀ c t, (n.outer.lookup (c, t)).getD [] = Blocks.around c (bs.ofThread t)
  outer_ne : ∀ c t, n.outer.lookup (c, t) ≠ some []
  blocks : ∀ c, n.openBlocks c = bs.count c
  blocks_ne : ∀ c, n.blocks.lookup c ≠ some 0

theorem fits_nil : Fits [] {} := ⟨fun _ => rfl, fun _ _ => rfl, fun _ _ => nofun, fun _ => rfl,
  fun _ => nofun⟩

/-! ### Setting what is current -/

theorem current?_withCurrent_self : (n.withCurrent t o).current? t = o := by
  cases o with
  | none => exact Assoc.lookup_erase_self t n.current
  | some c => exact Assoc.lookup_put_self t c n.current

theorem current?_withCurrent_of_ne (h : u ≠ t) :
    (n.withCurrent t o).current? u = n.current? u := by
  cases o with
  | none => exact Assoc.lookup_erase_of_ne h n.current
  | some c => exact Assoc.lookup_put_of_ne h c n.current

theorem outer_withCurrent : (n.withCurrent t o).outer = n.outer := by
  cases o <;> rfl

theorem blocks_withCurrent : (n.withCurrent t o).blocks = n.blocks := by
  cases o <;> rfl

/-! ### Entering -/

theorem outer_enter : (n.enter c t).outer =
    Assoc.put (c, t) (n.current? t :: (n.outer.lookup (c, t)).getD []) n.outer := rfl

theorem blocks_enter : (n.enter c t).blocks = Assoc.put c (n.openBlocks c + 1) n.blocks := rfl

/-- **Entering a block** puts it before the others. -/
theorem Fits.enter (h : Fits bs n) (c : ContextId) (t : Thread) :
    Fits ((t, c) :: bs) (n.enter c t) where
  current u := by
    by_cases hu : u = t
    · subst hu
      rw [current?_enter, Blocks.innermost?, Blocks.ofThread_cons_self]
      rfl
    · rw [current?_enter_of_ne c hu, h.current, Blocks.innermost?, Blocks.innermost?,
        Blocks.ofThread_cons_of_ne hu]
  outer d u := by
    rw [outer_enter]
    by_cases hkey : (d, u) = (c, t)
    · cases hkey
      rw [Assoc.lookup_put_self, Blocks.ofThread_cons_self, Blocks.around_cons_self, h.current,
        h.outer]
      rfl
    · rw [Assoc.lookup_put_of_ne hkey, h.outer]
      by_cases hu : u = t
      · subst hu
        have hd : d ≠ c := fun hd => hkey (by rw [hd])
        rw [Blocks.ofThread_cons_self, Blocks.around_cons_of_ne hd]
      · rw [Blocks.ofThread_cons_of_ne hu]
  outer_ne d u := by
    rw [outer_enter]
    by_cases hkey : (d, u) = (c, t)
    · rw [hkey, Assoc.lookup_put_self]
      nofun
    · rw [Assoc.lookup_put_of_ne hkey]
      exact h.outer_ne d u
  blocks d := by
    by_cases hd : d = c
    · subst hd
      rw [openBlocks_enter, h.blocks, Blocks.count_cons_self]
    · rw [openBlocks, blocks_enter, Assoc.lookup_put_of_ne hd, Blocks.count_cons_of_ne hd,
        ← h.blocks, openBlocks]
  blocks_ne d := by
    rw [blocks_enter]
    by_cases hd : d = c
    · rw [hd, Assoc.lookup_put_self]
      simp
    · rw [Assoc.lookup_put_of_ne hd]
      exact h.blocks_ne d

/-! ### Leaving -/

/-- What leaving a block changes: what was current before it is current again, and there is one
block less of the context. -/
structure Left (c : ContextId) (t : Thread) (before : Option ContextId)
    (rest : List (Option ContextId)) (n n' : Nesting) : Prop where
  current_self : n'.current? t = before
  current_of_ne : ∀ u, u ≠ t → n'.current? u = n.current? u
  outer_self : n'.outer.lookup (c, t) = if rest = [] then none else some rest
  outer_of_ne : ∀ k, k ≠ (c, t) → n'.outer.lookup k = n.outer.lookup k
  blocks_self : n'.blocks.lookup c =
    if n.openBlocks c - 1 = 0 then none else some (n.openBlocks c - 1)
  blocks_of_ne : ∀ d, d ≠ c → n'.blocks.lookup d = n.blocks.lookup d

theorem exists_left {before : Option ContextId} {rest : List (Option ContextId)}
    (h : n.outer.lookup (c, t) = some (before :: rest)) :
    ∃ n', n.leave? c t = some (decide (n.openBlocks c - 1 = 0), n') ∧ Left c t before rest n n' := by
  rw [leave?, h]
  refine ⟨_, rfl, current?_withCurrent_self, fun u hu => current?_withCurrent_of_ne hu, ?_,
    fun k hk => ?_, ?_, fun d hd => ?_⟩
  · rw [outer_withCurrent]
    cases rest with
    | nil => exact Assoc.lookup_erase_self _ _
    | cons o rest => exact Assoc.lookup_put_self _ _ _
  · rw [outer_withCurrent]
    cases rest with
    | nil => exact Assoc.lookup_erase_of_ne hk _
    | cons o rest => exact Assoc.lookup_put_of_ne hk _ _
  · rw [blocks_withCurrent]
    by_cases hleft : n.openBlocks c - 1 = 0
    · rw [if_pos hleft, if_pos hleft, Assoc.lookup_erase_self]
    · rw [if_neg hleft, if_neg hleft, Assoc.lookup_put_self]
  · rw [blocks_withCurrent]
    by_cases hleft : n.openBlocks c - 1 = 0
    · rw [if_pos hleft, Assoc.lookup_erase_of_ne hd]
    · rw [if_neg hleft, Assoc.lookup_put_of_ne hd]

/-- **Leaving a block** takes it out; it is known whether it was the last one of its context. -/
theorem Fits.leave (h : Fits bs n) (ht : bs.innermost? t = some c) :
    ∃ n', n.leave? c t = some (!Blocks.isOpen c (bs.erase (t, c)), n') ∧
      Fits (bs.erase (t, c)) n' := by
  have hthread := Blocks.ofThread_leave ht
  have houter : n.outer.lookup (c, t) =
      some ((Blocks.ofThread t (bs.erase (t, c))).head? ::
        Blocks.around c (Blocks.ofThread t (bs.erase (t, c)))) := by
    have haround := h.outer c t
    rw [hthread, Blocks.around_cons_self] at haround
    cases hlookup : n.outer.lookup (c, t) with
    | none =>
      rw [hlookup] at haround
      cases haround
    | some l =>
      rw [hlookup] at haround
      exact congrArg some haround
  have hcount : n.openBlocks c - 1 = Blocks.count c (bs.erase (t, c)) := by
    rw [h.blocks, Blocks.count_leave (Blocks.mem_of_innermost? ht)]
  obtain ⟨n', hn', hleft⟩ := exists_left houter
  refine ⟨n', ?_, fun u => ?_, fun d u => ?_, fun d u => ?_, fun d => ?_, fun d => ?_⟩
  · rw [hn', hcount]
    simp [Blocks.count_eq_zero_iff]
  · by_cases hu : u = t
    · subst hu
      exact hleft.current_self
    · rw [hleft.current_of_ne u hu, h.current, Blocks.innermost?, Blocks.innermost?,
        Blocks.ofThread_leave_of_ne ht hu]
  · by_cases hkey : (d, u) = (c, t)
    · cases hkey
      rw [hleft.outer_self]
      split
      next hrest => exact hrest.symm
      next => rfl
    · rw [hleft.outer_of_ne _ hkey, h.outer]
      by_cases hu : u = t
      · subst hu
        have hd : d ≠ c := fun hd => hkey (by rw [hd])
        rw [hthread, Blocks.around_cons_of_ne hd]
      · rw [Blocks.ofThread_leave_of_ne ht hu]
  · by_cases hkey : (d, u) = (c, t)
    · rw [hkey, hleft.outer_self]
      split
      next => nofun
      next hrest => exact fun heq => hrest (Option.some.inj heq)
    · rw [hleft.outer_of_ne _ hkey]
      exact h.outer_ne d u
  · by_cases hd : d = c
    · subst hd
      rw [openBlocks, hleft.blocks_self, hcount]
      split
      next hzero => exact hzero.symm
      next => rfl
    · rw [openBlocks, hleft.blocks_of_ne d hd, Blocks.count_leave_of_ne hd, ← h.blocks, openBlocks]
  · by_cases hd : d = c
    · rw [hd, hleft.blocks_self]
      split
      next => nofun
      next hleft => exact fun heq => hleft (Option.some.inj heq)
    · rw [hleft.blocks_of_ne d hd]
      exact h.blocks_ne d

/-! ### What has no block has no entry -/

theorem Fits.blocks_eq_none (h : Fits bs n) (hc : bs.isOpen c = false) :
    n.blocks.lookup c = none := by
  have hzero := (h.blocks c).trans (Blocks.count_eq_zero_iff.2 hc)
  cases hlookup : n.blocks.lookup c with
  | none => rfl
  | some k =>
    rw [openBlocks, hlookup] at hzero
    cases hzero
    exact absurd hlookup (h.blocks_ne c)

theorem Fits.outer_eq_none (h : Fits bs n) (hc : bs.isOpen c = false) (t : Thread) :
    n.outer.lookup (c, t) = none := by
  have hnil := (h.outer c t).trans (Blocks.around_eq_nil (Blocks.not_mem_ofThread hc t))
  cases hlookup : n.outer.lookup (c, t) with
  | none => rfl
  | some l =>
    rw [hlookup] at hnil
    cases hnil
    exact absurd hlookup (h.outer_ne c t)

end Nesting

end CatalogReplication.Config
