import CatalogReplication.Value.Expand
import Mathlib.Data.List.Infix
import Mathlib.Data.List.TakeWhile
import Mathlib.Data.Nat.Find

/-!
# References in a text

A reference is the name of a variable between `{$` and `}`. `Text.Refers` says where one stands in a
text, and `Text.Reads` how a text is read: up to its leftmost reference, then in the same way what is
behind that. There is just one way to read a text (`Text.exists_reads`, `Text.Reads.unique`), and it
meets all references of the text (`Text.Reads.exists_mem`).

Expanding a text follows this reading: it copies what stands before each reference, puts the value in
its place and goes on behind it (`Text.expand_of_reads`), so that no value is ever read.
-/

namespace CatalogReplication.Text

/-! ### Names and references -/

/-- A character that a name may begin with. -/
def IsLetter (c : Char) : Prop := ('a' ≤ c ∧ c ≤ 'z') ∨ ('A' ≤ c ∧ c ≤ 'Z') ∨ c = '_'

/-- The name of a variable: a letter, and behind it letters and digits. -/
def IsVariableName (name : String) : Prop :=
  ∃ c rest, name.toList = c :: rest ∧ IsLetter c ∧ ∀ d ∈ rest, IsLetter d ∨ ('0' ≤ d ∧ d ≤ '9')

/-- A reference to a variable. -/
def reference (name : String) : List Char := '\x7b' :: '$' :: (name.toList ++ ['\x7d'])

/-- A reference to a variable stands in a text, between two parts of it. -/
structure Refers (s before : List Char) (name : String) (after : List Char) : Prop where
  isVariableName : IsVariableName name
  eq_append : s = before ++ reference name ++ after

theorem isNameChar_eq_true_iff {c : Char} :
    isNameChar c = true ↔ IsLetter c ∨ ('0' ≤ c ∧ c ≤ '9') := by
  have halpha : c.isAlpha = (decide (c.val ≥ 'A'.val ∧ c.val ≤ 'Z'.val) ||
      decide (c.val ≥ 'a'.val) && decide (c.val ≤ 'z'.val)) := rfl
  simp only [isNameChar, IsLetter, Char.isAlphanum, halpha, Char.isDigit, Char.le_def,
    Bool.or_eq_true, Bool.and_eq_true, decide_eq_true_eq, beq_iff_eq]
  tauto

theorem isLetter_iff {c : Char} : IsLetter c ↔ isNameChar c = true ∧ c.isDigit = false := by
  have hdigit : c.isDigit = true ↔ '0' ≤ c ∧ c ≤ '9' := by
    simp [Char.isDigit, Char.le_def]
  rw [isNameChar_eq_true_iff, Bool.eq_false_iff, Ne, hdigit]
  constructor
  · refine fun h => ⟨.inl h, fun hfigure => ?_⟩
    obtain ⟨ha, -⟩ | ⟨hA, -⟩ | rfl := h
    · exact absurd (Char.le_trans ha hfigure.2) (by decide)
    · exact absurd (Char.le_trans hA hfigure.2) (by decide)
    · exact absurd hfigure.2 (by decide)
  · rintro ⟨h, hnot⟩
    exact h.resolve_right hnot

theorem isVariableName_iff {name : String} :
    IsVariableName name ↔
      (∀ c ∈ name.toList, isNameChar c = true) ∧ isName name.toList = true := by
  unfold IsVariableName
  cases name.toList with
  | nil => simp [isName]
  | cons c rest =>
    constructor
    · rintro ⟨d, rest', heq, hd, hrest⟩
      cases heq
      obtain ⟨hchar, hdigit⟩ := isLetter_iff.1 hd
      refine ⟨List.forall_mem_cons.2 ⟨hchar, fun d hd => ?_⟩, by simp [isName, hdigit]⟩
      exact isNameChar_eq_true_iff.2 (hrest d hd)
    · rintro ⟨hchars, hname⟩
      obtain ⟨hchar, hrest⟩ := List.forall_mem_cons.1 hchars
      exact ⟨c, rest, rfl, isLetter_iff.2 ⟨hchar, by simpa [isName] using hname⟩,
        fun d hd => isNameChar_eq_true_iff.1 (hrest d hd)⟩

theorem takeWhile_append_cons {p : Char → Bool} {s t : List Char} {c : Char}
    (hs : ∀ d ∈ s, p d = true) (hc : p c = false) :
    (s ++ c :: t).takeWhile p = s ∧ (s ++ c :: t).dropWhile p = c :: t := by
  rw [List.takeWhile_append_of_pos hs, List.dropWhile_append_of_pos hs,
    List.takeWhile_cons_of_neg (by simp [hc]), List.dropWhile_cons_of_neg (by simp [hc])]
  exact ⟨List.append_nil s, rfl⟩

/-- A reference is found where one stands. -/
theorem reference?_of_refers {s after : List Char} {name : String} (h : Refers s [] name after) :
    reference? s = some (name.toList, after) := by
  obtain ⟨hname, rfl⟩ := h
  obtain ⟨hchars, hisName⟩ := isVariableName_iff.1 hname
  obtain ⟨htake, hdrop⟩ := takeWhile_append_cons (t := after) hchars
    (show isNameChar '\x7d' = false by decide)
  have hs : [] ++ reference name ++ after = '\x7b' :: '$' :: (name.toList ++ '\x7d' :: after) := by
    simp [reference]
  rw [hs, reference?]
  simp only [htake, hdrop, hisName, ↓reduceIte]

/-- What is found is a reference. -/
theorem refers_of_reference? {s name after : List Char} (h : reference? s = some (name, after)) :
    Refers s [] (String.ofList name) after := by
  unfold reference? at h
  split at h
  next rest =>
    dsimp only at h
    split at h
    next after' hdrop =>
      split at h
      next hname =>
        cases h
        refine ⟨isVariableName_iff.2 ⟨?_, ?_⟩, ?_⟩
        · rw [String.toList_ofList]
          exact fun c hc => List.mem_takeWhile_imp hc
        · rwa [String.toList_ofList]
        · have hsplit := List.takeWhile_append_dropWhile (p := isNameChar) (l := rest)
          rw [hdrop] at hsplit
          simp [reference, hsplit]
      next => cases h
    next => cases h
  next => cases h

/-- A reference holds no other one: none of its characters behind the first one opens a reference. -/
theorem not_mem_tail_reference {name : String} (h : IsVariableName name) :
    '\x7b' ∉ '$' :: (name.toList ++ ['\x7d']) := by
  obtain ⟨hchars, -⟩ := isVariableName_iff.1 h
  rw [List.mem_cons, List.mem_append, List.mem_singleton]
  rintro (h | h | h)
  · exact absurd h (by decide)
  · exact absurd (hchars _ h) (by decide)
  · exact absurd h (by decide)

/-! ### Where references stand -/

section

variable {s s' before before' after after' : List Char} {name name' : String}

theorem Refers.append (h : Refers s before name after) (t : List Char) :
    Refers (t ++ s) (t ++ before) name after :=
  ⟨h.isVariableName, by rw [h.eq_append]; simp⟩

theorem Refers.of_append {t : List Char} (h : Refers (t ++ s) (t ++ before) name after) :
    Refers s before name after := by
  have heq : t ++ s = t ++ (before ++ reference name ++ after) := by
    rw [h.eq_append]
    simp
  exact ⟨h.isVariableName, List.append_cancel_left heq⟩

/-- A reference behind another one. -/
theorem Refers.trans (h : Refers s before name after) (h' : Refers after before' name' after') :
    Refers s (before ++ reference name ++ before') name' after' :=
  ⟨h'.isVariableName, by rw [h.eq_append, h'.eq_append]; simp⟩

theorem Refers.isPrefix (h : Refers s before name after) : before <+: s :=
  ⟨reference name ++ after, by rw [h.eq_append, List.append_assoc]⟩

theorem refers_self (h : IsVariableName name) (after : List Char) :
    Refers (reference name ++ after) [] name after := ⟨h, rfl⟩

/-- What begins with two references begins with one. -/
theorem Refers.unique (h : Refers s [] name after) (h' : Refers s [] name' after') :
    name = name' ∧ after = after' := by
  have heq := (reference?_of_refers h).symm.trans (reference?_of_refers h')
  rw [Option.some.injEq, Prod.mk.injEq, String.toList_inj] at heq
  exact heq

/-- Of two references in a text, the one that doesn't begin first stands behind the other one. -/
theorem Refers.behind (h : Refers s before name after) (h' : Refers s before' name' after')
    (hle : before.length ≤ before'.length) :
    (before = before' ∧ name = name' ∧ after = after') ∨
      ∃ t, before' = before ++ reference name ++ t ∧ Refers after t name' after' := by
  obtain ⟨u, rfl⟩ : before <+: before' :=
    List.prefix_of_prefix_length_le h.isPrefix h'.isPrefix hle
  rw [h.eq_append, List.append_assoc] at h'
  have hu := h'.of_append
  obtain ⟨t, ht, hafter⟩ | ⟨t, ht, hbehind⟩ := List.append_eq_append_iff.1
    (show reference name ++ after = u ++ (reference name' ++ after') by simp [hu.eq_append])
  · -- The second one stands behind the first one.
    subst ht
    exact .inr ⟨t, by simp, hu.isVariableName, by rw [hafter]; simp⟩
  · -- It begins inside of the first one, which it can only do where that begins.
    cases u with
    | nil =>
      obtain ⟨hname, hafter⟩ := (refers_self h.isVariableName after).unique hu
      exact .inl ⟨by simp, hname, hafter⟩
    | cons c u =>
      obtain ⟨-, htail⟩ : '\x7b' = c ∧ '$' :: (name.toList ++ ['\x7d']) = u ++ t := List.cons.inj ht
      cases t with
      | nil =>
        refine .inr ⟨[], ?_, hu.isVariableName, ?_⟩
        · rw [ht]
          simp
        · simpa using hbehind.symm
      | cons d t =>
        obtain ⟨rfl, -⟩ : '\x7b' = d ∧ _ = t ++ after := List.cons.inj hbehind
        refine absurd ?_ (not_mem_tail_reference h.isVariableName)
        rw [htail]
        simp

end

/-! ### How a text is read -/

/-- A reference in a text, with what is copied before it. -/
structure Passage where
  before : List Char
  name : String

/-- How a text is read from left to right: up to its leftmost reference, and then what is behind
that; what is left at the end holds no reference. -/
inductive Reads : List Char → List Passage → List Char → Prop where
  | last {s : List Char} (h : ∀ before name after, ¬ Refers s before name after) : Reads s [] s
  | next {s after rest : List Char} {p : Passage} {ps : List Passage}
      (h : Refers s p.before p.name after)
      (hleft : ∀ before name after, Refers s before name after →
        p.before.length ≤ before.length)
      (hrest : Reads after ps rest) : Reads s (p :: ps) rest

namespace Reads

variable {s rest rest' : List Char} {ps ps' : List Passage}

/-- **There is just one way to read a text.** -/
theorem unique (h : Reads s ps rest) (h' : Reads s ps' rest') : ps = ps' ∧ rest = rest' := by
  induction h generalizing ps' rest' with
  | last hnone =>
    cases h' with
    | last _ => exact ⟨rfl, rfl⟩
    | next h _ _ => exact absurd h (hnone _ _ _)
  | @next s after rest p ps h hleft _ ih =>
    cases h' with
    | last hnone => exact absurd h (hnone _ _ _)
    | @next _ after' _ p' ps' h' hleft' hrest' =>
      have hlength := Nat.le_antisymm (hleft _ _ _ h') (hleft' _ _ _ h)
      obtain ⟨hbefore, hname, rfl⟩ | ⟨t, ht, -⟩ := h.behind h' hlength.le
      · obtain ⟨rfl, rfl⟩ := ih hrest'
        obtain ⟨before, name⟩ := p
        obtain ⟨before', name'⟩ := p'
        cases hbefore
        cases hname
        exact ⟨rfl, rfl⟩
      · rw [ht] at hlength
        simp [reference] at hlength

/-- All references of a text are met. -/
theorem exists_mem (h : Reads s ps rest) {before after : List Char} {name : String}
    (hrefers : Refers s before name after) : ∃ p ∈ ps, p.name = name := by
  induction h generalizing before after with
  | last hnone => exact absurd hrefers (hnone _ _ _)
  | @next s after' rest p ps h hleft _ ih =>
    obtain ⟨-, hname, -⟩ | ⟨t, -, hbehind⟩ := h.behind hrefers (hleft _ _ _ hrefers)
    · exact ⟨p, List.mem_cons_self, hname⟩
    · obtain ⟨q, hq, hname⟩ := ih hbehind
      exact ⟨q, List.mem_cons_of_mem _ hq, hname⟩

end Reads

/-- A text with a reference has a leftmost one. -/
theorem exists_leftmost {s before after : List Char} {name : String}
    (h : Refers s before name after) :
    ∃ before name after, Refers s before name after ∧
      ∀ before' name' after', Refers s before' name' after' → before.length ≤ before'.length := by
  classical
  have hex : ∃ n before name after, Refers s before name after ∧ before.length = n :=
    ⟨_, before, name, after, h, rfl⟩
  obtain ⟨before, name, after, hrefers, hn⟩ := Nat.find_spec hex
  refine ⟨before, name, after, hrefers, fun before' name' after' h' => ?_⟩
  rw [hn]
  exact Nat.find_min' hex ⟨before', name', after', h', rfl⟩

/-- Every text can be read. -/
theorem exists_reads (s : List Char) : ∃ ps rest, Reads s ps rest := by
  induction hn : s.length using Nat.strong_induction_on generalizing s with
  | _ n ih =>
    by_cases hs : ∃ before name after, Refers s before name after
    · obtain ⟨_, _, _, h⟩ := hs
      obtain ⟨before, name, after, hrefers, hleft⟩ := exists_leftmost h
      have hlt : after.length < n := by
        rw [← hn, hrefers.eq_append]
        simp [reference]
        omega
      obtain ⟨ps, rest, hrest⟩ := ih _ hlt after rfl
      exact ⟨⟨before, name⟩ :: ps, rest, .next hrefers hleft hrest⟩
    · exact ⟨[], s, .last fun before name after h => hs ⟨before, name, after, h⟩⟩

/-! ### Expanding -/

section

variable {env : Environment} {s rest : List Char} {ps : List Passage}

theorem expand_nil (env : Environment) : expand env [] = .ok [] := by
  rw [expand]
  rfl

/-- Where no reference begins, a character is copied. -/
theorem expand_cons (env : Environment) {c : Char} {s : List Char}
    (h : ∀ name after, ¬ Refers (c :: s) [] name after) :
    expand env (c :: s) = (expand env s).map (c :: ·) := by
  have hnone : reference? (c :: s) = none := by
    cases hr : reference? (c :: s) with
    | none => rfl
    | some r => exact absurd (refers_of_reference? hr) (h _ _)
  rw [expand]
  split
  next hr => cases hnone.symm.trans hr
  next =>
    dsimp only
    cases expand env s <;> rfl

/-- Where a reference begins, the value of its variable is put in. -/
theorem expand_of_refers (env : Environment) {after : List Char} {name : String}
    (h : Refers s [] name after) :
    expand env s =
      match env.lookup name with
      | none => .error name
      | some value => (expand env after).map (value.toList ++ ·) := by
  have hr := reference?_of_refers h
  rw [expand]
  split
  next name' after' hr' =>
    cases hr.symm.trans hr'
    rw [String.ofList_toList]
    cases env.lookup name with
    | none => rfl
    | some value => cases expand env after <;> rfl
  next hnone => cases hnone.symm.trans hr

/-- What a text is read as, with the values put in. -/
def fill (env : Environment) (ps : List Passage) (rest : List Char) : List Char :=
  (ps.flatMap fun p => p.before ++ ((env.lookup p.name).getD "").toList) ++ rest

/-- A reading none of whose variables is unset. -/
def AllSet (env : Environment) (ps : List Passage) : Prop :=
  ∀ p ∈ ps, (env.lookup p.name).isSome = true

/-- A text without references is copied. -/
theorem expand_of_no_reference (h : ∀ before name after, ¬ Refers s before name after) :
    expand env s = .ok s := by
  induction s with
  | nil => exact expand_nil env
  | cons c s ih =>
    have hrest : ∀ before name after, ¬ Refers s before name after :=
      fun before name after hs => h _ _ _ (hs.append [c])
    rw [expand_cons env (h []), ih hrest]
    rfl

/-- What stands before the leftmost reference is copied. -/
theorem expand_of_leftmost {before after : List Char} {name : String}
    (h : Refers s before name after)
    (hleft : ∀ before' name' after', Refers s before' name' after' →
      before.length ≤ before'.length) :
    expand env s = (expand env (reference name ++ after)).map (before ++ ·) := by
  obtain ⟨hname, rfl⟩ := h
  rw [List.append_assoc] at hleft ⊢
  induction before with
  | nil => cases h : expand env (reference name ++ after) <;> simp [h, Except.map]
  | cons c before ih =>
    have hnone : ∀ name' after',
        ¬ Refers (c :: (before ++ (reference name ++ after))) [] name' after' :=
      fun name' after' h => absurd (hleft [] name' after' h) (by simp)
    have hrest := ih fun before' name' after' h =>
      Nat.le_of_succ_le_succ (hleft (c :: before') name' after' (h.append [c]))
    rw [List.cons_append, expand_cons env hnone, hrest]
    cases expand env (reference name ++ after) <;> rfl

/-- **Expanding a text** fails at the first variable of its reading that isn't set; otherwise it
puts all values in. -/
theorem expand_of_reads (env : Environment) (h : Reads s ps rest) :
    expand env s =
      match ps.find? fun p => (env.lookup p.name).isNone with
      | some p => .error p.name
      | none => .ok (fill env ps rest) := by
  induction h with
  | last hnone => exact expand_of_no_reference hnone
  | @next s after rest p ps h hleft _ ih =>
    rw [expand_of_leftmost h hleft, expand_of_refers env (refers_self h.isVariableName after),
      List.find?_cons, ih]
    cases hp : env.lookup p.name with
    | none => rfl
    | some value =>
      cases ps.find? fun p => (env.lookup p.name).isNone with
      | some q => rfl
      | none => simp [Except.map, fill, hp]

theorem expand_eq_ok_iff (h : Reads s ps rest) {t : List Char} :
    expand env s = .ok t ↔ AllSet env ps ∧ t = fill env ps rest := by
  rw [expand_of_reads env h]
  cases hfind : ps.find? fun p => (env.lookup p.name).isNone with
  | some p =>
    have hp : (env.lookup p.name).isNone = true := by simpa using List.find?_some hfind
    simp only [reduceCtorEq, false_iff, not_and]
    intro hset
    have hsome := hset p (List.mem_of_find?_eq_some hfind)
    rw [Option.isNone_iff_eq_none.1 hp] at hsome
    cases hsome
  | none =>
    have hset : AllSet env ps := fun p hp => by
      simpa using List.find?_eq_none.1 hfind p hp
    simp [hset, eq_comm]

/-- The variable of the leftmost reference to one that isn't set. -/
def FirstUnset (env : Environment) (s : List Char) (name : String) : Prop :=
  ∃ before after, Refers s before name after ∧ env.lookup name = none ∧
    ∀ before' name' after', Refers s before' name' after' → before'.length < before.length →
      (env.lookup name').isSome = true

theorem firstUnset_of_expand {name : String} (h : expand env s = .error name) :
    FirstUnset env s name := by
  obtain ⟨ps, rest, hreads⟩ := exists_reads s
  induction hreads with
  | last hnone => cases (expand_of_no_reference hnone).symm.trans h
  | @next s after rest p ps hp hleft _ ih =>
    rw [expand_of_leftmost hp hleft, expand_of_refers env (refers_self hp.isVariableName after)] at h
    cases hlookup : env.lookup p.name with
    | none =>
      rw [hlookup] at h
      cases h
      refine ⟨p.before, after, hp, hlookup, fun before' name' after' h' hlt => ?_⟩
      exact absurd (hleft before' name' after' h') (Nat.not_le.2 hlt)
    | some value =>
      rw [hlookup] at h
      have hafter : expand env after = .error name := by
        cases hexpand : expand env after with
        | ok t => simp [hexpand, Except.map] at h
        | error e => simpa [hexpand, Except.map] using h
      obtain ⟨before, after', hrefers, hunset, hearlier⟩ := ih hafter
      refine ⟨_, after', hp.trans hrefers, hunset, fun before' name' after'' h' hlt => ?_⟩
      obtain ⟨-, rfl, -⟩ | ⟨t, rfl, ht⟩ := hp.behind h' (hleft before' name' after'' h')
      · exact Option.isSome_of_eq_some hlookup
      · refine hearlier t name' after'' ht ?_
        simpa using hlt

end

end CatalogReplication.Text
