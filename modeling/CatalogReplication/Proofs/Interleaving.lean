import CatalogReplication.Proofs.Program
import Mathlib.Data.DFinsupp.WellFounded
import Mathlib.SetTheory.Cardinal.Order

/-!
# Programs side by side

Several procedures work on one state. In each step one of them makes its next call, which is
answered at once, or leaves its next note; which one is open.

* `Weave.ended_or_step`, `Weave.wellFounded_step`: as long as a procedure is not at its end there is
  a step, and finitely many procedures come to their ends whatever the order of the steps is.
* `Weave.Keeps.runs`: each procedure *relies* on what the others may do to the state, and does at
  its own calls only what the others rely on. What each of them ensures among such others
  (`Program.Among`) is then ensured in every order.
-/

namespace CatalogReplication.Program

variable {ι C N E α S : Type} {A : C → Type}

/-- A call is answered, and others do what they may do before the next one. -/
def Among (serve : (c : C) → S → Except E (A c) × S) (rely : S → S → Prop) (c : C) (s : S)
    (a : Except E (A c)) (s' : S) : Prop :=
  a = (serve c s).1 ∧ rely (serve c s).2 s'

/-- A call that was answered, and whose call it was. -/
structure Reply (ι C : Type) (A : C → Type) (E : Type) where
  strand : ι
  call : C
  answer : Except E (A call)

/-- Procedures side by side, each as far as it got, and the state that they share. -/
structure Weave (ι C : Type) (A : C → Type) (N E α S : Type) where
  strand : ι → Program C A N E α
  state : S

/-- What is left of a procedure after its first call or note. -/
inductive Rest : Program C A N E α → Program C A N E α → Prop where
  | note {n : N} {rest : Program C A N E α} : Rest rest (.note n rest)
  | call {c : C} {next : Except E (A c) → Program C A N E α} (a : Except E (A c)) :
      Rest (next a) (.call c next)

/-- A procedure makes finitely many calls, whatever the answers are. -/
theorem wellFounded_rest : WellFounded (Rest : Program C A N E α → Program C A N E α → Prop) := by
  refine ⟨fun p => ?_⟩
  induction p with
  | done a => exact ⟨_, nofun⟩
  | fail e => exact ⟨_, nofun⟩
  | note n rest ih => exact ⟨_, fun q h => by cases h; exact ih⟩
  | call c next ih => exact ⟨_, fun q h => by cases h; exact ih _⟩

namespace Weave

variable [DecidableEq ι] (serve : (c : C) → S → Except E (A c) × S)

/-- One of the procedures makes its next call, or leaves its next note. -/
inductive Step (x : Weave ι C A N E α S) : List (Reply ι C A E) → Weave ι C A N E α S → Prop where
  | note {i : ι} {n : N} {rest : Program C A N E α} (h : x.strand i = .note n rest) :
      Step x [] { x with strand := Function.update x.strand i rest }
  | call {i : ι} {c : C} {next : Except E (A c) → Program C A N E α}
      (h : x.strand i = .call c next) :
      Step x [{ strand := i, call := c, answer := (serve c x.state).1 }]
        { strand := Function.update x.strand i (next (serve c x.state).1)
          state := (serve c x.state).2 }

/-- Any number of steps, with the calls that were answered, the latest first. -/
inductive Runs (x : Weave ι C A N E α S) : List (Reply ι C A E) → Weave ι C A N E α S → Prop where
  | here : Runs x [] x
  | step {l e : List (Reply ι C A E)} {y z : Weave ι C A N E α S} (h : Runs x l y)
      (hs : Step serve y e z) : Runs x (e ++ l) z

/-- The steps of the procedures that a list names, one after the other; a procedure that is at its
end makes none. -/
def follow : List ι → Weave ι C A N E α S → List (Reply ι C A E) × Weave ι C A N E α S
  | [], x => ([], x)
  | i :: turns, x =>
    match x.strand i with
    | .note _ rest => follow turns { x with strand := Function.update x.strand i rest }
    | .call c next =>
      let (l, y) := follow turns {
        strand := Function.update x.strand i (next (serve c x.state).1)
        state := (serve c x.state).2 }
      (l ++ [{ strand := i, call := c, answer := (serve c x.state).1 }], y)
    | _ => follow turns x

theorem Runs.head {x y z : Weave ι C A N E α S} {l e : List (Reply ι C A E)}
    (hs : Step serve x e y) (h : Runs serve y l z) : Runs serve x (l ++ e) z := by
  induction h with
  | here => simpa using Runs.step .here hs
  | step _ hs' ih =>
    rw [List.append_assoc]
    exact .step ih hs'

theorem runs_follow (turns : List ι) (x : Weave ι C A N E α S) :
    Runs serve x (follow serve turns x).1 (follow serve turns x).2 := by
  induction turns generalizing x with
  | nil => exact .here
  | cons i turns ih =>
    unfold follow
    cases h : x.strand i with
    | done a => exact ih x
    | fail e => exact ih x
    | note n rest =>
      have hruns := Runs.head serve (.note h)
        (ih { x with strand := Function.update x.strand i rest })
      rwa [List.append_nil] at hruns
    | call c next => exact .head serve (.call h) (ih _)

/-! ### Coming to an end -/

/-- All procedures are at their ends, or there is a step. -/
theorem ended_or_step (x : Weave ι C A N E α S) :
    (∃ r : ι → Except E α, ∀ i, x.strand i = ofExcept (r i)) ∨ ∃ e y, Step serve x e y := by
  by_cases hstep : ∃ e y, Step serve x e y
  · exact .inr hstep
  · have hended : ∀ i, ∃ r : Except E α, x.strand i = ofExcept r := fun i => by
      cases h : x.strand i with
      | done a => exact ⟨.ok a, rfl⟩
      | fail e => exact ⟨.error e, rfl⟩
      | note n rest => exact absurd ⟨_, _, .note h⟩ hstep
      | call c next => exact absurd ⟨_, _, .call h⟩ hstep
    exact .inl (Classical.axiomOfChoice hended)

theorem not_step_of_ended {x y : Weave ι C A N E α S} {e : List (Reply ι C A E)}
    (h : ∀ i, ∃ r, x.strand i = ofExcept r) : ¬ Step serve x e y := by
  intro hs
  cases hs with
  | @note i n rest hi =>
    obtain ⟨r, hr⟩ := h i
    rw [hr] at hi
    cases r <;> cases hi
  | @call i c next hi =>
    obtain ⟨r, hr⟩ := h i
    rw [hr] at hi
    cases r <;> cases hi

/-- **Finitely many procedures come to their ends** whatever the order of the steps is. -/
theorem wellFounded_step [Finite ι] :
    WellFounded fun y x : Weave ι C A N E α S => ∃ e, Step serve x e y := by
  have hlex : WellFounded (Pi.Lex WellOrderingRel fun {_ : ι} =>
      (Rest : Program C A N E α → Program C A N E α → Prop)) :=
    Pi.Lex.wellFounded WellOrderingRel fun _ => wellFounded_rest
  refine Subrelation.wf ?_ (InvImage.wf strand hlex)
  rintro y x ⟨e, h⟩
  have hrest : ∀ (i : ι) (p : Program C A N E α), Rest p (x.strand i) →
      Pi.Lex WellOrderingRel Rest (Function.update x.strand i p) x.strand := fun i p hp =>
    ⟨i, fun j hj => Function.update_of_ne (fun he => irrefl i (he ▸ hj)) _ _,
      by rwa [Function.update_self]⟩
  cases h with
  | note h => exact hrest _ _ (h ▸ .note)
  | call h => exact hrest _ _ (h ▸ .call _)

/-! ### What is kept in every order -/

section

variable {rely : ι → S → S → Prop} {before : ι → C → S → Prop} {after : ι → Except E α → S → Prop}
  {x y z : Weave ι C A N E α S} {l e : List (Reply ι C A E)}

/-- Each procedure ensures what it should from where it is, whatever the others do before its next
call. -/
def Keeps (rely : ι → S → S → Prop) (before : ι → C → S → Prop)
    (after : ι → Except E α → S → Prop) (x : Weave ι C A N E α S) : Prop :=
  ∀ i s, rely i x.state s →
    (x.strand i).Ensures (Among serve (rely i)) (fun _ s => s) (before i) (after i) s

variable {serve} (hrefl : ∀ i s, rely i s s)
  (htrans : ∀ i s s' s'', rely i s s' → rely i s' s'' → rely i s s'')
  (hothers : ∀ i j c s, before i c s → j ≠ i → rely j s (serve c s).2)

include hrefl htrans hothers

theorem Keeps.step (h : x.Keeps serve rely before after) (hs : Step serve x e y) :
    y.Keeps serve rely before after := by
  cases hs with
  | @note i n rest hi =>
    intro j s hj
    show (Function.update x.strand i rest j).Ensures _ _ _ _ _
    by_cases hij : j = i
    · subst hij
      have hkeeps := h j s hj
      rw [hi] at hkeeps
      rwa [Function.update_self]
    · rw [Function.update_of_ne hij]
      exact h j s hj
  | @call i c next hi =>
    have hkeeps := h i x.state (hrefl i _)
    rw [hi] at hkeeps
    obtain ⟨hbefore, hnext⟩ := hkeeps
    intro j s hj
    show (Function.update x.strand i (next (serve c x.state).1) j).Ensures _ _ _ _ _
    by_cases hij : j = i
    · subst hij
      rw [Function.update_self]
      exact hnext _ _ ⟨rfl, hj⟩
    · rw [Function.update_of_ne hij]
      exact h j s (htrans j _ _ _ (hothers i j c x.state hbefore hij) hj)

/-- **What each procedure ensures among the others is ensured in every order.** -/
theorem Keeps.runs (h : x.Keeps serve rely before after) (hr : Runs serve x l y) :
    y.Keeps serve rely before after := by
  induction hr with
  | here => exact h
  | step _ hs ih => exact ih.step hrefl htrans hothers hs

/-- A procedure that is at its end has ensured what it should. -/
theorem Keeps.ended {i : ι} {a : Except E α} (h : x.Keeps serve rely before after)
    (hr : Runs serve x l y) (hi : y.strand i = ofExcept a) : after i a y.state := by
  have hkeeps := h.runs hrefl htrans hothers hr i y.state (hrefl i _)
  rw [hi] at hkeeps
  cases a <;> exact hkeeps

/-- What all calls keep, as each of them is made, holds in every order. -/
theorem Keeps.invariant {Q : List (Reply ι C A E) → S → Prop}
    (h : x.Keeps serve rely before after) (hx : Q [] x.state)
    (hcall : ∀ i c s l, before i c s → Q l s →
      Q ({ strand := i, call := c, answer := (serve c s).1 } :: l) (serve c s).2)
    (hr : Runs serve x l y) : Q l y.state := by
  induction hr with
  | here => exact hx
  | @step l e y z hr hs ih =>
    cases hs with
    | note _ => exact ih
    | @call i c next hi =>
      have hkeeps := h.runs hrefl htrans hothers hr i y.state (hrefl i _)
      rw [hi] at hkeeps
      exact hcall i c y.state l hkeeps.1 ih

end

end Weave

/-! ### Alone -/

/-- What each call of a procedure keeps, as it is made, its whole run keeps. -/
theorem Ensures.run_keeps {serve : (c : C) → S → Except E (A c) × S} {rely R : S → S → Prop}
    {before : C → S → Prop} {after : Except E α → S → Prop} {p : Program C A N E α} {s : S}
    (h : p.Ensures (Among serve rely) (fun _ s => s) before after s) (hrely : ∀ s, rely s s)
    (hrefl : ∀ s, R s s) (htrans : ∀ s s' s'', R s s' → R s' s'' → R s s'')
    (hcall : ∀ c s, before c s → R s (serve c s).2) :
    R s (p.run serve (fun _ s => s) s).2 := by
  induction p generalizing s with
  | done a => exact hrefl s
  | fail e => exact hrefl s
  | note n rest ih => exact ih h
  | call c next ih =>
    exact htrans _ _ _ (hcall c s h.1) (ih _ (h.2 _ _ ⟨rfl, hrely _⟩))

end CatalogReplication.Program
