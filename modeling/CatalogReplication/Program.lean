/-!
# Programs

A procedure that works on the outside world is a tree of the calls that it makes. Each call is one
node, and what comes next depends on its answer, which may be an error. So a procedure can be run on
a real state, on a scripted one, with faults at any call, or step by step between others, and says
nothing about which. Besides calls, a program leaves notes, which have no answer.
-/

namespace CatalogReplication

/-- A procedure with calls `C`, answered as `A` says, notes `N`, errors `E` and results `α`. -/
inductive Program (C : Type) (A : C → Type) (N E α : Type) where
  | done (a : α)
  | fail (e : E)
  | note (n : N) (rest : Program C A N E α)
  | call (c : C) (next : Except E (A c) → Program C A N E α)

namespace Program

variable {C : Type} {A : C → Type} {N E α β : Type}

/-- One procedure after the other; an error ends both. -/
def bind : Program C A N E α → (α → Program C A N E β) → Program C A N E β
  | done a, f => f a
  | fail e, _ => fail e
  | note n rest, f => note n (rest.bind f)
  | call c next, f => call c fun answer => (next answer).bind f

instance : Monad (Program C A N E) where
  pure := done
  bind := bind

/-- Answers an error with another procedure. -/
def recover : Program C A N E α → (E → Program C A N E α) → Program C A N E α
  | done a, _ => done a
  | fail e, h => h e
  | note n rest, h => note n (rest.recover h)
  | call c next, h => call c fun answer => (next answer).recover h

/-- The result of a computation that makes no call. -/
def ofExcept : Except E α → Program C A N E α
  | .ok a => done a
  | .error e => fail e

/-- Makes a call; an error in answer ends the procedure. -/
def perform (c : C) : Program C A N E (A c) := call c ofExcept

/-- Leaves a note. -/
def tell (n : N) : Program C A N E Unit := note n (done ())

/-- Runs a procedure on a state that answers its calls and takes its notes. -/
def run {S : Type} (serve : (c : C) → S → Except E (A c) × S) (record : N → S → S) :
    Program C A N E α → S → Except E α × S
  | done a, s => (.ok a, s)
  | fail e, s => (.error e, s)
  | note n rest, s => rest.run serve record (record n s)
  | call c next, s => (next (serve c s).1).run serve record (serve c s).2

/-! ### Running -/

section

variable {S : Type} (serve : (c : C) → S → Except E (A c) × S) (record : N → S → S)

theorem run_bind (p : Program C A N E α) (f : α → Program C A N E β) (s : S) :
    (p.bind f).run serve record s =
      match p.run serve record s with
      | (.ok a, s') => (f a).run serve record s'
      | (.error e, s') => (.error e, s') := by
  induction p generalizing s with
  | done a => rfl
  | fail e => rfl
  | note n rest ih => exact ih _
  | call c next ih => exact ih _ _

end

end Program

end CatalogReplication
