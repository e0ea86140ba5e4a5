import CatalogReplication.Program

/-!
# What every run of a program keeps to

A call may be answered in more than one way: as the state answers it, or by an error. `Ensures` says
of a program that, whatever the answers are, each call finds the state as it should be, and so does
the end. `Reaches` goes through a program call by call, so what is ensured holds wherever a run is
cut off (`Ensures.reaches`) and of the run on a state that answers by itself (`Ensures.run`).
-/

namespace CatalogReplication.Program

variable {C : Type} {A : C → Type} {N E α β S : Type}

/-- Whatever the answers to its calls, a program makes a call `c` only in a state `s` with
`before c s`, and ends with a result and a state of which `after` holds. -/
def Ensures (answers : (c : C) → S → Except E (A c) → S → Prop) (record : N → S → S)
    (before : C → S → Prop) (after : Except E α → S → Prop) : Program C A N E α → S → Prop
  | done a, s => after (.ok a) s
  | fail e, s => after (.error e) s
  | note n rest, s => rest.Ensures answers record before after (record n s)
  | call c next, s =>
    before c s ∧ ∀ a s', answers c s a s' → (next a).Ensures answers record before after s'

/-- A program in a state may become another one in another state by some of its calls. -/
inductive Reaches (answers : (c : C) → S → Except E (A c) → S → Prop) (record : N → S → S) :
    Program C A N E α → S → Program C A N E α → S → Prop where
  | here {p : Program C A N E α} {s : S} : Reaches answers record p s p s
  | note {n : N} {rest p : Program C A N E α} {s s' : S}
      (h : Reaches answers record rest (record n s) p s') :
      Reaches answers record (.note n rest) s p s'
  | call {c : C} {next : Except E (A c) → Program C A N E α} {p : Program C A N E α}
      {a : Except E (A c)} {s m s' : S} (ha : answers c s a m)
      (h : Reaches answers record (next a) m p s') : Reaches answers record (.call c next) s p s'

/-- All calls that a program can make, whatever the answers, are of one kind. -/
def CallsOnly (P : C → Prop) : Program C A N E α → Prop
  | done _ => True
  | fail _ => True
  | note _ rest => rest.CallsOnly P
  | call c next => P c ∧ ∀ a, (next a).CallsOnly P

@[simp] theorem pure_eq_done (a : α) : (pure a : Program C A N E α) = done a := rfl

@[simp] theorem bind_eq_bind (p : Program C A N E α) (f : α → Program C A N E β) :
    p >>= f = p.bind f := rfl

@[simp] theorem done_bind (a : α) (f : α → Program C A N E β) : (done a).bind f = f a := rfl

theorem bind_done (p : Program C A N E α) : p.bind done = p := by
  induction p with
  | done a => rfl
  | fail e => rfl
  | note n rest ih => exact congrArg (note n) ih
  | call c next ih => exact congrArg (call c) (funext ih)

theorem bind_assoc {γ : Type} (p : Program C A N E α) (f : α → Program C A N E β)
    (g : β → Program C A N E γ) : (p.bind f).bind g = p.bind fun a => (f a).bind g := by
  induction p with
  | done a => rfl
  | fail e => rfl
  | note n rest ih => exact congrArg (note n) ih
  | call c next ih => exact congrArg (call c) (funext ih)

/-! ### Rules -/

section

variable {answers : (c : C) → S → Except E (A c) → S → Prop} {record : N → S → S}
variable {before before' : C → S → Prop}

theorem Ensures.mono {after after' : Except E α → S → Prop} {p : Program C A N E α} {s : S}
    (h : p.Ensures answers record before after s) (hb : ∀ c s, before c s → before' c s)
    (ha : ∀ r s, after r s → after' r s) : p.Ensures answers record before' after' s := by
  induction p generalizing s with
  | done a => exact ha _ _ h
  | fail e => exact ha _ _ h
  | note n rest ih => exact ih h
  | call c next ih => exact ⟨hb _ _ h.1, fun a s' hs => ih a (h.2 a s' hs)⟩

/-- One procedure after the other: what the first ends with is what the second starts from. -/
theorem Ensures.bind {middle : Except E α → S → Prop} {after : Except E β → S → Prop}
    {p : Program C A N E α} {f : α → Program C A N E β} {s : S}
    (h : p.Ensures answers record before middle s)
    (hok : ∀ a s', middle (.ok a) s' → (f a).Ensures answers record before after s')
    (herr : ∀ e s', middle (.error e) s' → after (.error e) s') :
    (p.bind f).Ensures answers record before after s := by
  induction p generalizing s with
  | done a => exact hok _ _ h
  | fail e => exact herr _ _ h
  | note n rest ih => exact ih h
  | call c next ih => exact ⟨h.1, fun a s' hs => ih a (h.2 a s' hs)⟩

/-- What a procedure keeps to in two ways, it keeps to in both. -/
theorem Ensures.and {after after' : Except E α → S → Prop} {p : Program C A N E α} {s : S}
    (h : p.Ensures answers record before after s)
    (h' : p.Ensures answers record before' after' s) :
    p.Ensures answers record (fun c s => before c s ∧ before' c s)
      (fun r s => after r s ∧ after' r s) s := by
  induction p generalizing s with
  | done a => exact ⟨h, h'⟩
  | fail e => exact ⟨h, h'⟩
  | note n rest ih => exact ih h h'
  | call c next ih => exact ⟨⟨h.1, h'.1⟩, fun a s' hs => ih a (h.2 a s' hs) (h'.2 a s' hs)⟩

/-- A procedure with a handler: what the first ends with is what the handler starts from, if it is
an error. -/
theorem Ensures.recover {middle after : Except E α → S → Prop} {p : Program C A N E α}
    {f : E → Program C A N E α} {s : S} (h : p.Ensures answers record before middle s)
    (hok : ∀ a s', middle (.ok a) s' → after (.ok a) s')
    (herr : ∀ e s', middle (.error e) s' → (f e).Ensures answers record before after s') :
    (p.recover f).Ensures answers record before after s := by
  induction p generalizing s with
  | done a => exact hok _ _ h
  | fail e => exact herr _ _ h
  | note n rest ih => exact ih h
  | call c next ih => exact ⟨h.1, fun a s' hs => ih a (h.2 a s' hs)⟩

theorem ensures_trivial (p : Program C A N E α) (s : S) :
    p.Ensures answers record (fun _ _ => True) (fun _ _ => True) s := by
  induction p generalizing s with
  | done a => trivial
  | fail e => trivial
  | note n rest ih => exact ih _
  | call c next ih => exact ⟨trivial, fun a s' _ => ih a s'⟩

/-- A call after which a procedure goes on, unless an error is the answer. -/
theorem ensures_perform_bind {after : Except E β → S → Prop} {c : C} {f : A c → Program C A N E β}
    {s : S} (hbefore : before c s)
    (hok : ∀ a s', answers c s (.ok a) s' → (f a).Ensures answers record before after s')
    (herr : ∀ e s', answers c s (.error e) s' → after (.error e) s') :
    ((perform c).bind f).Ensures answers record before after s := by
  refine ⟨hbefore, fun a s' hs => ?_⟩
  cases a with
  | ok a => exact hok a s' hs
  | error e => exact herr e s' hs

theorem Ensures.reaches {after : Except E α → S → Prop} {p p' : Program C A N E α} {s s' : S}
    (h : p.Ensures answers record before after s) (hr : Reaches answers record p s p' s') :
    p'.Ensures answers record before after s' := by
  induction hr with
  | here => exact h
  | note _ ih => exact ih h
  | call ha _ ih => exact ih (h.2 _ _ ha)

/-- What holds at every call and at every end holds wherever a run is cut off, if notes leave the
state as it is. -/
theorem Ensures.holds {after : Except E α → S → Prop} {I : S → Prop} {p : Program C A N E α}
    {s : S} (h : p.Ensures answers record before after s) (hnote : ∀ n s, record n s = s)
    (hb : ∀ c s, before c s → I s) (ha : ∀ r s, after r s → I s) : I s := by
  induction p generalizing s with
  | done a => exact ha _ _ h
  | fail e => exact ha _ _ h
  | note n rest ih =>
    have hrest := ih h
    rwa [hnote] at hrest
  | call c next _ => exact hb _ _ h.1

/-- What is kept by every step that a procedure can take holds all along. -/
theorem Ensures.invariant {after : Except E α → S → Prop} {I : S → Prop} {p : Program C A N E α}
    {s : S} (h : p.Ensures answers record before after s) (hnote : ∀ n s, I s → I (record n s))
    (hstep : ∀ c s a s', before c s → answers c s a s' → I s → I s') (hs : I s) :
    p.Ensures answers record (fun c s => before c s ∧ I s) (fun r s => after r s ∧ I s) s := by
  induction p generalizing s with
  | done a => exact ⟨h, hs⟩
  | fail e => exact ⟨h, hs⟩
  | note n rest ih => exact ih h (hnote n s hs)
  | call c next ih =>
    exact ⟨⟨h.1, hs⟩, fun a s' ha => ih a (h.2 a s' ha) (hstep c s a s' h.1 ha hs)⟩

/-- The run on a state that answers by itself is one of all runs. -/
theorem Ensures.run {after : Except E α → S → Prop} {serve : (c : C) → S → Except E (A c) × S}
    {p : Program C A N E α} {s : S} (h : p.Ensures answers record before after s)
    (hs : ∀ c s, answers c s (serve c s).1 (serve c s).2) :
    after (p.run serve record s).1 (p.run serve record s).2 := by
  induction p generalizing s with
  | done a => exact h
  | fail e => exact h
  | note n rest ih => exact ih h
  | call c next ih => exact ih _ (h.2 _ _ (hs c s))

end

/-! ### The calls of a program -/

theorem CallsOnly.bind {P : C → Prop} {p : Program C A N E α} {f : α → Program C A N E β}
    (h : p.CallsOnly P) (hf : ∀ a, (f a).CallsOnly P) : (p.bind f).CallsOnly P := by
  induction p with
  | done a => exact hf a
  | fail e => trivial
  | note n rest ih => exact ih h
  | call c next ih => exact ⟨h.1, fun a => ih a (h.2 a)⟩

theorem callsOnly_ofExcept {P : C → Prop} (r : Except E α) :
    (ofExcept r : Program C A N E α).CallsOnly P := by
  cases r <;> trivial

theorem callsOnly_perform {P : C → Prop} {c : C} (h : P c) :
    (perform c : Program C A N E (A c)).CallsOnly P :=
  ⟨h, fun a => callsOnly_ofExcept a⟩

/-! ### How far a program gets -/

section

variable {answers : (c : C) → S → Except E (A c) → S → Prop} {record : N → S → S}

/-- With more answers a program gets at least as far. -/
theorem Reaches.mono {answers' : (c : C) → S → Except E (A c) → S → Prop}
    {p q : Program C A N E α} {s s' : S} (h : Reaches answers record p s q s')
    (ha : ∀ c s a s', answers c s a s' → answers' c s a s') : Reaches answers' record p s q s' := by
  induction h with
  | here => exact .here
  | note _ ih => exact .note ih
  | call hanswer _ ih => exact .call (ha _ _ _ _ hanswer) ih

theorem Reaches.trans {p q r : Program C A N E α} {s m s' : S}
    (h : Reaches answers record p s q m) (h' : Reaches answers record q m r s') :
    Reaches answers record p s r s' := by
  induction h with
  | here => exact h'
  | note _ ih => exact .note (ih h')
  | call ha _ ih => exact .call ha (ih h')

theorem Reaches.bind {p q : Program C A N E α} {s s' : S} (h : Reaches answers record p s q s')
    (f : α → Program C A N E β) : Reaches answers record (p.bind f) s (q.bind f) s' := by
  induction h with
  | here => exact .here
  | note _ ih => exact .note ih
  | call ha _ ih => exact .call ha ih

/-- A run on a state that answers by itself gets to its end. -/
theorem reaches_run {serve : (c : C) → S → Except E (A c) × S}
    (hs : ∀ c s, answers c s (serve c s).1 (serve c s).2) (p : Program C A N E α) (s : S) :
    Reaches answers record p s (ofExcept (p.run serve record s).1) (p.run serve record s).2 := by
  induction p generalizing s with
  | done a => exact .here
  | fail e => exact .here
  | note n rest ih => exact .note (ih _)
  | call c next ih => exact .call (hs c s) (ih _ _)

/-- Two procedures in a row get somewhere in the first, or through it and somewhere in the
second. -/
theorem Reaches.of_bind {f : α → Program C A N E β} :
    ∀ {p : Program C A N E α} {q : Program C A N E β} {s s' : S},
      Reaches answers record (p.bind f) s q s' →
        (∃ p', Reaches answers record p s p' s' ∧ q = p'.bind f) ∨
          ∃ a m, Reaches answers record p s (done a) m ∧ Reaches answers record (f a) m q s'
  | .done a, q, s, s', h => .inr ⟨a, s, .here, h⟩
  | .fail e, q, s, s', h => by
    cases h with
    | here => exact .inl ⟨.fail e, .here, rfl⟩
  | .note n rest, q, s, s', h => by
    cases h with
    | here => exact .inl ⟨.note n rest, .here, rfl⟩
    | note h =>
      rcases Reaches.of_bind h with ⟨p', hp, rfl⟩ | ⟨a, m, hp, hf⟩
      · exact .inl ⟨p', .note hp, rfl⟩
      · exact .inr ⟨a, m, .note hp, hf⟩
  | .call c next, q, s, s', h => by
    cases h with
    | here => exact .inl ⟨.call c next, .here, rfl⟩
    | call ha h =>
      rcases Reaches.of_bind h with ⟨p', hp, rfl⟩ | ⟨a, m, hp, hf⟩
      · exact .inl ⟨p', .call ha hp, rfl⟩
      · exact .inr ⟨a, m, .call ha hp, hf⟩

end

end CatalogReplication.Program
