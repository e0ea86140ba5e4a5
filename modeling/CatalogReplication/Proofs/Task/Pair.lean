import CatalogReplication.Proofs.Catalog.Service
import CatalogReplication.Proofs.Transfer.Spare
import CatalogReplication.Task.Data

/-!
# Tasks on disks

A pair of clusters is two catalogs over the same disks, with the settings of whoever carries data. A
run of a task on it goes down to the file calls. With faults, any call may fail, and so may any file
call that it makes; a transfer may be broken off wherever it is (`Pair.Answers`).

A procedure of a task keeps the source and a place if, wherever it is cut off, the catalog of the
source and the tree at the place are as they were (`Pair.Keeps`).
-/

namespace CatalogReplication.Task

open Catalog (Service View)
open Files (Place Disks)
open Files.Disks (SameTree)
open Transfer (Spared Spares Trial)
open TaskProgram

/-- Two catalogs, and how data is carried between their clusters. -/
structure Pair where
  source : Service
  destination : Service
  options : Transfer.Options

namespace Pair

/-- What the catalogs and the disks hold. -/
structure World (E : Pair) where
  source : E.source.State
  destination : E.destination.State
  disks : Disks

/-- The content of the catalog of the source. -/
def World.sourceView {E : Pair} (w : E.World) : View := E.source.view w.source

/-- Answers a call at a time; whoever hears an event has nothing to say. -/
def serve (E : Pair) (now : Int) : (c : Call) → E.World → Except Failure c.Answer × E.World
  | .source r, w =>
    let x := E.source.serve now r w.source
    (x.1, { w with source := x.2 })
  | .destination r, w =>
    let x := E.destination.serve now r w.destination
    (x.1, { w with destination := x.2 })
  | .transfer r, w =>
    let x := Transfer.run (Transfer.program E.options r) w.disks
    (x.1, { w with disks := x.2 })
  | .hear _, w => (.ok (), w)

/-- A run of a procedure without faults. -/
def run {α : Type} (E : Pair) (now : Int) (p : TaskProgram α) (w : E.World) :
    Except Failure α × E.World :=
  p.run (E.serve now) (fun _ w => w) w

/-- Whether a call failed. -/
def Failed {α : Type} (a : Except Failure α) : Prop := ∃ e, a = .error e

/-- How a call may be answered with faults: requests to catalogs are lost, or served with their
answer or without; transfers get somewhere, and answer if that is their end. -/
def Answers (E : Pair) : (c : Call) → E.World → Except Failure c.Answer → E.World → Prop
  | .source r, w, a, w' => (Failed a ∧ w' = w) ∨ ∃ now,
    (a = (E.source.serve now r w.source).1 ∨ Failed a) ∧
      w' = { w with source := (E.source.serve now r w.source).2 }
  | .destination r, w, a, w' => (Failed a ∧ w' = w) ∨ ∃ now,
    (a = (E.destination.serve now r w.destination).1 ∨ Failed a) ∧
      w' = { w with destination := (E.destination.serve now r w.destination).2 }
  | .transfer r, w, a, w' => ∃ p t,
    Program.Reaches Trial.Answers (fun _ t => t) (Transfer.program E.options r) ⟨w.disks, 0⟩ p t ∧
      (Failed a ∨ ∃ x, a = .ok x ∧ p = .done x) ∧ w' = { w with disks := t.disks }
  | .hear _, w, _, w' => w' = w

/-- A world has the catalog of the source, and the tree at a place, of another world. -/
structure Kept {E : Pair} (L : Place) (w w' : E.World) : Prop where
  source : w'.source = w.source
  spared : ∀ k, Spared L w.disks ⟨w'.disks, k⟩

/-- Whatever fails, the catalog of the source and the tree at a place are as they were at each call
of a procedure and at its end. -/
def Keeps {α : Type} {E : Pair} (L : Place) (w : E.World) (p : TaskProgram α) : Prop :=
  ∀ w', Kept L w w' →
    p.Ensures E.Answers (fun _ w => w) (fun _ w' => Kept L w w') (fun _ w' => Kept L w w') w'

section

variable {E : Pair} {L : Place} {w w' : E.World} {α β : Type}

theorem Kept.refl (hs : w.disks.Sound) : Kept L w w := ⟨rfl, fun _ => ⟨hs, le_rfl, .rfl⟩⟩

theorem Kept.sameTree (h : Kept L w w') : SameTree L w.disks L w'.disks := (h.spared 0).same

/-! ### Rules -/

theorem Keeps.bind {p : TaskProgram α} {f : α → TaskProgram β} (hp : Keeps L w p)
    (hf : ∀ a, Keeps L w (f a)) : Keeps L w (p.bind f) := fun w' hw =>
  Program.Ensures.bind (hp w' hw) (fun a w' hw => hf a w' hw) fun _ _ hw => hw

theorem keeps_done (a : α) : Keeps L w (.done a) := fun _ hw => hw

theorem keeps_fail (e : Failure) : Keeps L w (.fail e : TaskProgram α) := fun _ hw => hw

theorem keeps_tell (n : Overwrite) : Keeps L w (Program.tell n : TaskProgram Unit) := fun _ hw => hw

theorem keeps_ofExcept {r : Except Failure α} {f : α → TaskProgram β}
    (hf : ∀ a, r = .ok a → Keeps L w (f a)) :
    Keeps L w ((Program.ofExcept r : TaskProgram α).bind f) := by
  cases r with
  | ok a => exact hf a rfl
  | error e => exact keeps_fail e

/-- A look-up in the catalog of the source: the answer is known, if there is one. -/
theorem keeps_lookup {r : Catalog.Request} {v : r.Answer} {f : r.Answer → TaskProgram α}
    (hr : r.isLookup = true) (hv : ∀ now a v', w.sourceView.Accepts now r a v' → a = v)
    (hf : Keeps L w (f v)) : Keeps L w ((TaskProgram.source r).bind f) := by
  intro w₁ hw
  have hstate (now : Int) :
      ({ w₁ with source := (E.source.serve now r w₁.source).2 } : E.World) = w₁ := by
    rw [E.source.looks hr]
  refine Program.ensures_perform_bind hw (fun a w' ha => ?_) fun e w' ha => ?_
  · obtain ⟨⟨e, he⟩, -⟩ | ⟨now, ha | ⟨e, he⟩, rfl⟩ := ha
    · cases he
    · obtain ⟨a', ha', haccepts⟩ := @Service.accepts E.source now r w₁.source
        (View.rejection?_eq_none_of_isLookup hr _)
      rw [ha'] at ha
      obtain rfl := Except.ok.inj ha
      rw [hstate, hv now a _ (show View.Accepts now w.sourceView r a _ by
        rw [World.sourceView, ← hw.source]; exact haccepts)]
      exact hf w₁ hw
    · cases he
  · obtain ⟨-, rfl⟩ | ⟨now, -, rfl⟩ := ha
    · exact hw
    · rw [hstate]
      exact hw

theorem keeps_destination (r : Catalog.Request) : Keeps L w (TaskProgram.destination r) := by
  intro w₁ hw
  rw [← Program.bind_done (TaskProgram.destination r)]
  have hafter : ∀ a w', E.Answers (.destination r) w₁ a w' → Kept L w w' := by
    rintro a w' (⟨-, rfl⟩ | ⟨now, -, rfl⟩)
    · exact hw
    · exact ⟨hw.source, hw.spared⟩
  exact Program.ensures_perform_bind hw (fun a w' ha => hafter _ w' ha)
    fun e w' ha => hafter _ w' ha

theorem keeps_emit (spec : Spec) (kind : EventKind) (details : List (String × Value)) :
    Keeps L w (emit spec kind details) := by
  intro w₁ hw
  unfold emit
  rw [← Program.bind_done (Program.perform _)]
  refine Program.ensures_perform_bind hw (fun a w' ha => ?_) fun e w' ha => ?_
  · exact ha ▸ hw
  · exact ha ▸ hw

/-- A transfer that spares a place, wherever it gets. -/
theorem kept_of_answers {r : Transfer.Request} (h : Spares L w.disks (Transfer.program E.options r))
    {w₁ w' : E.World} (hw : Kept L w w₁) {a : Except Failure r.Answer}
    (ha : E.Answers (.transfer r) w₁ a w') : Kept L w w' := by
  obtain ⟨p, t, hreaches, -, rfl⟩ := ha
  have hspared : Spared L w.disks t :=
    ((h _ (hw.spared 0)).reaches hreaches).holds (fun n _ => n.elim) (fun _ _ ht => ht)
      fun _ _ ht => ht
  exact ⟨hw.source, fun _ => ⟨hspared.sound, hspared.lastTag, hspared.same⟩⟩

theorem keeps_transfer {r : Transfer.Request}
    (h : Spares L w.disks (Transfer.program E.options r)) : Keeps L w (transfer r) := by
  intro w₁ hw
  rw [← Program.bind_done (transfer r)]
  exact Program.ensures_perform_bind hw (fun a w' ha => kept_of_answers h hw ha)
    fun e w' ha => kept_of_answers h hw ha

theorem keeps_tryTransfer {r : Transfer.Request}
    (h : Spares L w.disks (Transfer.program E.options r)) : Keeps L w (tryTransfer r) := by
  refine fun w₁ hw => ⟨hw, fun a w' ha => ?_⟩
  have hw' := kept_of_answers h hw ha
  beta_reduce
  split
  · exact hw'
  · exact hw'
  · exact hw'

end

end Pair

end CatalogReplication.Task
