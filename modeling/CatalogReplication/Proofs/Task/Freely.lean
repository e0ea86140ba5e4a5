import CatalogReplication.Proofs.Catalog.Site
import CatalogReplication.Proofs.Task.Partners

/-!
# Carriers of which nothing is known

A task may meet a carrier that keeps to no contract: a transfer is answered by anything, or fails,
and leaves any files behind. The catalogs answer as they do, or fail where failures may occur
(`Partners.AnswersFreely`). Even so, every call has a known effect on the catalogs: it writes at
most one site of the destination (`Partners.record?_of_answers`).
-/

namespace CatalogReplication.Task

open Catalog (View Site)
open TaskProgram

/-- Whether a call goes to neither of the catalogs. -/
def Call.isAside : Call → Bool
  | .transfer _ | .hear _ => true
  | _ => false

/-- Whether a call looks something up or reports it. -/
def Call.isLook : Call → Bool
  | .source r | .destination r => r.isLookup
  | .hear _ => true
  | .transfer _ => false

/-- The place of the destination that a call writes. -/
def Call.site? : Call → Option Site
  | .destination r => r.site?
  | _ => none

/-- Where a call puts data. -/
def Call.target? : Call → Option String
  | .transfer (.copy _ target _) => some target
  | .transfer (.move _ target) => some target
  | _ => none

theorem Call.site?_of_isLook {c : Call} (h : c.isLook = true) : c.site? = none := by
  cases c with
  | destination r => exact (Catalog.Request.site?_eq_none_iff r).2 h
  | _ => rfl

namespace Partners

/-- As the partners answer, or by an error that may occur, with the call's effect or without. -/
def AnswersOrFails (E : Partners) (may : Call → Failure → Prop) (c : Call) (m : E.Moment)
    (a : Except Failure c.Answer) (m' : E.Moment) : Prop :=
  (a = (E.serve c m).1 ∧ m' = (E.serve c m).2) ∨
    ((∃ e, a = .error e ∧ may c e) ∧ (m' = m.after c m.world ∨ m' = (E.serve c m).2))

/-- How a call may be answered if nothing is known of the carrier. -/
def AnswersFreely (E : Partners) (may : Call → Failure → Prop) :
    (c : Call) → E.Moment → Except Failure c.Answer → E.Moment → Prop
  | .transfer r => fun m a m' =>
    (∀ e, a = .error e → may (.transfer r) e) ∧
      ∃ files, m' = m.after (.transfer r) { m.world with files }
  | .source r => E.AnswersOrFails may (.source r)
  | .destination r => E.AnswersOrFails may (.destination r)
  | .hear e => E.AnswersOrFails may (.hear e)

/-- What a procedure keeps to in all runs from a moment, whatever the carrier does. -/
abbrev EnsuresFreely {α : Type} (E : Partners) (may : Call → Failure → Prop)
    (before : Call → E.Moment → Prop) (after : Except Failure α → E.Moment → Prop)
    (p : TaskProgram α) (m : E.Moment) : Prop :=
  Program.Ensures (E.AnswersFreely may) (fun _ m => m) before after p m

/-- How far a procedure may get, whatever the carrier does. -/
abbrev ReachesFreely {α : Type} (E : Partners) (may : Call → Failure → Prop) (p : TaskProgram α)
    (m : E.Moment) (p' : TaskProgram α) (m' : E.Moment) : Prop :=
  Program.Reaches (E.AnswersFreely may) (fun _ m => m) p m p' m'

variable {E : Partners} {may : Call → Failure → Prop} {α : Type} {c : Call} {m m' : E.Moment}
  {a : Except Failure c.Answer}

/-! ### The effect of a call -/

/-- A call that leaves the catalogs as they are. -/
structure Beside (c : Call) (m m' : E.Moment) : Prop where
  source : m'.world.source = m.world.source
  destination : m'.world.destination = m.world.destination
  log : m'.log = c :: m.log

theorem log_of_answersFreely (h : E.AnswersFreely may c m a m') : m'.log = c :: m.log := by
  have hserve : (E.serve c m).2.log = c :: m.log := by cases c <;> rfl
  have horFails : E.AnswersOrFails may c m a m' → m'.log = c :: m.log := by
    rintro (⟨-, rfl⟩ | ⟨-, rfl | rfl⟩)
    · exact hserve
    · rfl
    · exact hserve
  cases c with
  | transfer r =>
    obtain ⟨-, files, rfl⟩ := h
    rfl
  | source r => exact horFails h
  | destination r => exact horFails h
  | hear e => exact horFails h

theorem beside_of_answers (hc : c.isAside = true) (h : E.AnswersFreely may c m a m') :
    Beside c m m' := by
  have hlog := log_of_answersFreely h
  cases c with
  | source r => cases hc
  | destination r => cases hc
  | transfer r =>
    obtain ⟨-, files, rfl⟩ := h
    exact ⟨rfl, rfl, hlog⟩
  | hear e =>
    rcases h with ⟨-, rfl⟩ | ⟨-, rfl | rfl⟩
    · exact ⟨rfl, rfl, hlog⟩
    · exact ⟨rfl, rfl, hlog⟩
    · exact ⟨rfl, rfl, hlog⟩

/-- Beside the catalogs, only what may fail does. -/
theorem may_of_error {e : Failure} (hc : c.isAside = true)
    (h : E.AnswersFreely may c m (.error e) m') : may c e := by
  cases c with
  | source r => cases hc
  | destination r => cases hc
  | transfer r => exact h.1 e rfl
  | hear event =>
    rcases h with ⟨hserved, -⟩ | ⟨⟨e', he, hmay⟩, -⟩
    · cases hserved
    · cases he
      exact hmay

/-- A call that looks or reports leaves the world as it is. -/
theorem world_of_answers (hc : c.isLook = true) (h : E.AnswersFreely may c m a m') :
    m'.world = m.world := by
  have hcases : E.AnswersOrFails may c m a m' → (E.serve c m).2.world = m.world →
      m'.world = m.world := by
    rintro (⟨-, rfl⟩ | ⟨-, rfl | rfl⟩) hserve
    · exact hserve
    · rfl
    · exact hserve
  cases c with
  | transfer r => cases hc
  | hear e => exact hcases h rfl
  | source r =>
    refine hcases h ?_
    show ({ m.world with source := _ } : E.World) = m.world
    rw [E.source.looks hc]
  | destination r =>
    refine hcases h ?_
    show ({ m.world with destination := _ } : E.World) = m.world
    rw [E.destination.looks hc]

/-- A source that is only looked at stays as it is. -/
theorem source_of_answers (hc : ∀ r, c = .source r → r.isLookup = true)
    (h : E.AnswersFreely may c m a m') : m'.world.source = m.world.source := by
  cases c with
  | transfer r => exact (beside_of_answers rfl h).source
  | hear e => exact (beside_of_answers rfl h).source
  | destination r =>
    rcases h with ⟨-, rfl⟩ | ⟨-, rfl | rfl⟩
    · rfl
    · rfl
    · rfl
  | source r =>
    have hserve : (E.serve (.source r) m).2.world.source = m.world.source :=
      E.source.looks (hc r rfl)
    rcases h with ⟨-, rfl⟩ | ⟨-, rfl | rfl⟩
    · exact hserve
    · rfl
    · exact hserve

/-- What a call leaves at the destination: what was there, or what an accepted request leaves. -/
theorem view_of_answers (h : E.AnswersFreely may c m a m') :
    m'.world.view = m.world.view ∨ ∃ r, c = .destination r ∧ m.world.view.rejection? r = none ∧
      ∃ now answer, m.world.view.Accepts now r answer m'.world.view := by
  have hview : ∀ {m₁ : E.Moment}, m₁.world.destination = m.world.destination →
      m₁.world.view = m.world.view := fun hd => congrArg E.destination.view hd
  cases c with
  | transfer r => exact .inl (hview (beside_of_answers rfl h).destination)
  | hear e => exact .inl (hview (beside_of_answers rfl h).destination)
  | source r =>
    rcases h with ⟨-, rfl⟩ | ⟨-, rfl | rfl⟩
    · exact .inl rfl
    · exact .inl rfl
    · exact .inl rfl
  | destination r =>
    have hserved : (E.serve (.destination r) m).2.world.view = m.world.view ∨
        ∃ r', Call.destination r = .destination r' ∧ m.world.view.rejection? r' = none ∧
          ∃ now answer,
            m.world.view.Accepts now r' answer (E.serve (.destination r) m).2.world.view := by
      cases hr : m.world.view.rejection? r with
      | some e =>
        have hrejected : E.destination.serve (m.clock 0) r m.world.destination = _ :=
          E.destination.rejects hr
        exact .inl (hview (congrArg Prod.snd hrejected))
      | none =>
        obtain ⟨answer, -, hv⟩ :
            ∃ answer, (E.destination.serve (m.clock 0) r m.world.destination).1 = .ok answer ∧ _ :=
          E.destination.accepts hr
        exact .inr ⟨r, rfl, hr, m.clock 0, answer, hv⟩
    rcases h with ⟨-, rfl⟩ | ⟨-, rfl | rfl⟩
    · exact hserved
    · exact .inl rfl
    · exact hserved

/-- A call leaves all places of the destination alone but the one that it writes. -/
theorem record?_of_answers {s : Site} (h : E.AnswersFreely may c m a m') (hs : c.site? ≠ some s) :
    m'.world.view.record? s = m.world.view.record? s := by
  rcases view_of_answers h with hview | ⟨r, rfl, -, now, answer, hview⟩
  · rw [hview]
  · exact hview.record?_eq hs

/-- A database that is there stays as it is. -/
theorem database_of_answers {name : String} {d : DatabaseRecord}
    (h : E.AnswersFreely may c m a m') (hd : m.world.view.database name = some d) :
    m'.world.view.database name = some d := by
  rcases view_of_answers h with hview | ⟨r, rfl, -, now, answer, hview⟩
  · rw [hview]
    exact hd
  · exact hview.database_kept hd

/-- The run of partners whose carrier fails only where failures may occur. -/
theorem reachesFreely_upTo
    (hfail : ∀ r s e, (E.carrier.serve r s).1 = .error e → may (.transfer r) e)
    (p : TaskProgram α) (n : Nat) (m : E.Moment) :
    E.ReachesFreely may p m (E.upTo p n m).1 (E.upTo p n m).2 := by
  refine reaches_upTo_of_serve (fun c m => ?_) p n m
  cases c with
  | transfer r => exact ⟨fun e he => hfail r _ e he, _, rfl⟩
  | source r => exact .inl ⟨rfl, rfl⟩
  | destination r => exact .inl ⟨rfl, rfl⟩
  | hear e => exact .inl ⟨rfl, rfl⟩

/-! ### Rules for calls -/

section

variable {before : Call → E.Moment → Prop} {after : Except Failure α → E.Moment → Prop}

/-- A call beside the catalogs, answered by anything. -/
theorem freely_aside {f : c.Answer → TaskProgram α} (hc : c.isAside = true) (hbefore : before c m)
    (hnext : ∀ v (m' : E.Moment), Beside c m m' → E.EnsuresFreely may before after (f v) m')
    (hfault : ∀ e (m' : E.Moment), Beside c m m' → may c e → after (.error e) m') :
    E.EnsuresFreely may before after ((Program.perform c).bind f) m := by
  refine Program.ensures_perform_bind hbefore (fun v m' ha => ?_) fun e m' ha => ?_
  · exact hnext v m' (beside_of_answers hc ha)
  · exact hfault e m' (beside_of_answers hc ha) (may_of_error hc ha)

/-- A transfer that may fail without an end to the procedure. -/
theorem freely_try {r : Transfer.Request} {f : Except Transfer.Error r.Answer → TaskProgram α}
    (hbefore : before (.transfer r) m)
    (hnext : ∀ v (m' : E.Moment), Beside (.transfer r) m m' →
      E.EnsuresFreely may before after (f v) m')
    (hfault : ∀ e (m' : E.Moment), Beside (.transfer r) m m' → may (.transfer r) e →
      after (.error e) m') :
    E.EnsuresFreely may before after ((tryTransfer r).bind f) m := by
  refine ⟨hbefore, fun v m' ha => ?_⟩
  have hbeside : Beside (.transfer r) m m' := beside_of_answers rfl ha
  rcases v with e | v
  · have hmay : may (.transfer r) e := may_of_error (c := .transfer r) rfl ha
    cases e with
    | transfer e => exact hnext (.error e) m' hbeside
    | _ => exact hfault _ m' hbeside hmay
  · exact hnext (.ok v) m' hbeside

/-- A look into a catalog: its answer is known. -/
theorem freely_look {w : E.World} {v : c.Answer} {f : c.Answer → TaskProgram α}
    (hlook : E.Looks c w v) (hc : ∀ r, c ≠ .transfer r) (hw : m.world = w) (hbefore : before c m)
    (hnext : ∀ m' : E.Moment, m'.world = w → m'.log = c :: m.log →
      E.EnsuresFreely may before after (f v) m')
    (hfault : ∀ e (m' : E.Moment), m'.world = w → m'.log = c :: m.log → may c e →
      after (.error e) m') :
    E.EnsuresFreely may before after ((Program.perform c).bind f) m := by
  obtain ⟨hanswer, hworld⟩ := hlook m hw
  refine ⟨hbefore, fun answer m' ha => ?_⟩
  have hlog := log_of_answersFreely ha
  have horFails : E.AnswersOrFails may c m answer m' := by
    cases c with
    | transfer r => exact absurd rfl (hc r)
    | source r => exact ha
    | destination r => exact ha
    | hear e => exact ha
  rcases horFails with ⟨rfl, rfl⟩ | ⟨⟨e, rfl, hmay⟩, rfl | rfl⟩
  · rw [hanswer]
    exact hnext _ hworld hlog
  · exact hfault e _ hw hlog hmay
  · exact hfault e _ hworld hlog hmay

/-- A request to the destination: it is rejected or lost, or leaves what an accepted request
leaves. -/
theorem freely_destination {r : Catalog.Request} {f : r.Answer → TaskProgram α}
    (hbefore : before (.destination r) m)
    (hstay : ∀ e (m' : E.Moment), m'.world = m.world →
      (may (.destination r) e ∨ ∃ e', e = .catalog e') → after (.error e) m')
    (hdone : ∀ v (m' : E.Moment), E.AnswersFreely may (.destination r) m (.ok v) m' →
      E.EnsuresFreely may before after (f v) m')
    (hlost : ∀ e (m' : E.Moment), E.AnswersFreely may (.destination r) m (.error e) m' →
      may (.destination r) e → after (.error e) m') :
    E.EnsuresFreely may before after ((Program.perform (Call.destination r)).bind f) m := by
  refine Program.ensures_perform_bind hbefore hdone fun e m' ha => ?_
  rcases id ha with ⟨hserved, rfl⟩ | ⟨⟨e', he, hmay⟩, -⟩
  · cases hr : m.world.view.rejection? r with
    | some e' =>
      have hrejected : E.destination.serve (m.clock 0) r m.world.destination = _ :=
        E.destination.rejects hr
      have herror : e = .catalog e' := by
        have hanswer : (E.serve (.destination r) m).1 = .error (.catalog e') :=
          congrArg Prod.fst hrejected
        exact Except.error.inj (hserved.trans hanswer)
      have hworld : (E.serve (.destination r) m).2.world = m.world := by
        show ({ m.world with destination := _ } : E.World) = m.world
        rw [hrejected]
      exact hstay e _ hworld (.inr ⟨e', herror⟩)
    | none =>
      obtain ⟨v, hv, -⟩ :
          ∃ v, (E.destination.serve (m.clock 0) r m.world.destination).1 = .ok v ∧ _ :=
        E.destination.accepts hr
      have hanswer : Except.error e = Except.ok v := hserved.trans hv
      cases hanswer
  · cases he
    exact hlost e m' ha hmay

end

end Partners

end CatalogReplication.Task
