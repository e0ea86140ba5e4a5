import CatalogReplication.Proofs.Program

/-!
# Transcripts

A transcript is the list of the calls that a run of a program made, each with the answer that it
got. `Yields` says that a program comes to an end with a transcript, whoever gave the answers:
nothing binds one answer to another, so what is shown of all transcripts holds beside any partner.
The rules take a transcript apart along the program, and `yields_run` says that every run has one.
-/

namespace CatalogReplication.Program

variable {C : Type} {A : C → Type} {N E α β S : Type}

/-- A call with the answer that it got. -/
structure Exchange (C : Type) (A : C → Type) (E : Type) where
  call : C
  answer : Except E (A call)

/-- A program, answered like this, comes to this end. -/
inductive Yields : Program C A N E α → List (Exchange C A E) → Except E α → Prop where
  | done (a : α) : Yields (.done a) [] (.ok a)
  | fail (e : E) : Yields (.fail e) [] (.error e)
  | note {n : N} {rest : Program C A N E α} {T : List (Exchange C A E)} {r : Except E α}
      (h : Yields rest T r) : Yields (.note n rest) T r
  | call {c : C} {next : Except E (A c) → Program C A N E α} {T : List (Exchange C A E)}
      {r : Except E α} (a : Except E (A c)) (h : Yields (next a) T r) :
      Yields (.call c next) (⟨c, a⟩ :: T) r

variable {p : Program C A N E α} {T : List (Exchange C A E)}

/-! ### Rules -/

@[simp] theorem yields_done_iff {a : α} {r : Except E α} :
    (done a : Program C A N E α).Yields T r ↔ T = [] ∧ r = .ok a := by
  constructor
  · rintro ⟨⟩
    exact ⟨rfl, rfl⟩
  · rintro ⟨rfl, rfl⟩
    exact .done a

@[simp] theorem yields_fail_iff {e : E} {r : Except E α} :
    (fail e : Program C A N E α).Yields T r ↔ T = [] ∧ r = .error e := by
  constructor
  · rintro ⟨⟩
    exact ⟨rfl, rfl⟩
  · rintro ⟨rfl, rfl⟩
    exact .fail e

@[simp] theorem yields_note_iff {n : N} {r : Except E α} : (note n p).Yields T r ↔ p.Yields T r :=
  ⟨fun h => by cases h; assumption, .note⟩

theorem yields_call_iff {c : C} {next : Except E (A c) → Program C A N E α} {r : Except E α} :
    (call c next).Yields T r ↔ ∃ a T', T = ⟨c, a⟩ :: T' ∧ (next a).Yields T' r := by
  constructor
  · rintro ⟨⟩
    exact ⟨_, _, rfl, ‹_›⟩
  · rintro ⟨a, T', rfl, h⟩
    exact .call a h

@[simp] theorem yields_ofExcept_iff {x r : Except E α} :
    (ofExcept x : Program C A N E α).Yields T r ↔ T = [] ∧ r = x := by
  cases x <;> simp [ofExcept]

theorem Yields.bind_error {f : α → Program C A N E β} {e : E} (h : p.Yields T (.error e)) :
    (p.bind f).Yields T (.error e) := by
  generalize hr : (Except.error e : Except E α) = r at h
  induction h with
  | done a => cases hr
  | fail e' =>
    cases hr
    exact .fail e
  | note _ ih => exact .note (ih hr)
  | call a _ ih => exact .call a (ih hr)

theorem Yields.bind {f : α → Program C A N E β} {a : α} {T' : List (Exchange C A E)}
    {r : Except E β} (h : p.Yields T (.ok a)) (hf : (f a).Yields T' r) :
    (p.bind f).Yields (T ++ T') r := by
  generalize hx : (Except.ok a : Except E α) = x at h
  induction h with
  | done a' =>
    cases hx
    exact hf
  | fail e => cases hx
  | note _ ih => exact .note (ih hx)
  | call a _ ih => exact .call a (ih hx)

/-- A transcript of one procedure after the other: the first ends in an error, and so do both, or
its transcript comes first and then that of the second. -/
theorem yields_bind_iff {f : α → Program C A N E β} {r : Except E β} :
    (p.bind f).Yields T r ↔
      (∃ e, p.Yields T (.error e) ∧ r = .error e) ∨
        ∃ a T₁ T₂, T = T₁ ++ T₂ ∧ p.Yields T₁ (.ok a) ∧ (f a).Yields T₂ r := by
  constructor
  · intro h
    induction p generalizing T with
    | done a => exact .inr ⟨a, [], T, rfl, .done a, h⟩
    | fail e =>
      obtain ⟨rfl, rfl⟩ := yields_fail_iff.1 h
      exact .inl ⟨e, .fail e, rfl⟩
    | note n rest ih =>
      obtain ⟨e, herr, rfl⟩ | ⟨a, T₁, T₂, rfl, h₁, h₂⟩ := ih (yields_note_iff.1 h)
      · exact .inl ⟨e, .note herr, rfl⟩
      · exact .inr ⟨a, T₁, T₂, rfl, .note h₁, h₂⟩
    | call c next ih =>
      obtain ⟨x, T', rfl, h'⟩ := yields_call_iff.1 h
      obtain ⟨e, herr, rfl⟩ | ⟨a, T₁, T₂, rfl, h₁, h₂⟩ := ih x h'
      · exact .inl ⟨e, .call x herr, rfl⟩
      · exact .inr ⟨a, ⟨c, x⟩ :: T₁, T₂, rfl, .call x h₁, h₂⟩
  · rintro (⟨e, h, rfl⟩ | ⟨a, T₁, T₂, rfl, h₁, h₂⟩)
    · exact h.bind_error
    · exact h₁.bind h₂

@[simp] theorem yields_perform_iff {c : C} {r : Except E (A c)} :
    (perform c : Program C A N E (A c)).Yields T r ↔ T = [⟨c, r⟩] := by
  unfold perform
  constructor
  · intro h
    obtain ⟨a, T', rfl, ha⟩ := yields_call_iff.1 h
    obtain ⟨rfl, rfl⟩ := yields_ofExcept_iff.1 ha
    rfl
  · rintro rfl
    exact .call r (yields_ofExcept_iff.2 ⟨rfl, rfl⟩)

/-- A call after which a procedure goes on, unless an error is the answer. -/
theorem yields_perform_bind_iff {c : C} {f : A c → Program C A N E β} {r : Except E β} :
    ((perform c).bind f).Yields T r ↔
      (∃ e, T = [⟨c, .error e⟩] ∧ r = .error e) ∨
        ∃ a T', T = ⟨c, .ok a⟩ :: T' ∧ (f a).Yields T' r := by
  unfold perform
  simp only [Program.bind, yields_call_iff]
  constructor
  · rintro ⟨a, T', rfl, h⟩
    cases a with
    | error e =>
      obtain ⟨rfl, rfl⟩ := yields_fail_iff.1 h
      exact .inl ⟨e, rfl, rfl⟩
    | ok a => exact .inr ⟨a, T', rfl, h⟩
  · rintro (⟨e, rfl, rfl⟩ | ⟨a, T', rfl, h⟩)
    · exact ⟨.error e, [], rfl, .fail e⟩
    · exact ⟨.ok a, T', rfl, h⟩

/-! ### The transcript of a run -/

/-- The transcript of a run on a state that answers by itself. -/
def transcript (serve : (c : C) → S → Except E (A c) × S) (record : N → S → S) :
    Program C A N E α → S → List (Exchange C A E)
  | done _, _ => []
  | fail _, _ => []
  | note n rest, s => rest.transcript serve record (record n s)
  | call c next, s =>
    ⟨c, (serve c s).1⟩ :: (next (serve c s).1).transcript serve record (serve c s).2

/-- **Every run has a transcript.** -/
theorem yields_run (serve : (c : C) → S → Except E (A c) × S) (record : N → S → S)
    (p : Program C A N E α) (s : S) :
    p.Yields (p.transcript serve record s) (p.run serve record s).1 := by
  induction p generalizing s with
  | done a => exact .done a
  | fail e => exact .fail e
  | note n rest ih => exact .note (ih _)
  | call c next ih => exact .call _ (ih _ _)

/-- The answers in the transcript of a run are those of the state. -/
theorem answer_of_mem_transcript {serve : (c : C) → S → Except E (A c) × S} {record : N → S → S}
    {p : Program C A N E α} {s : S} {x : Exchange C A E} (hx : x ∈ p.transcript serve record s) :
    ∃ s', x.answer = (serve x.call s').1 := by
  induction p generalizing s with
  | done a => cases hx
  | fail e => cases hx
  | note n rest ih => exact ih hx
  | call c next ih =>
    rcases List.mem_cons.1 hx with rfl | hx
    · exact ⟨s, rfl⟩
    · exact ih _ hx

end CatalogReplication.Program
