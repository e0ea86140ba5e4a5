import CatalogReplication.Proofs.Task.Freely
import CatalogReplication.Proofs.Task.Replicate

/-!
# The calls of an update

Whatever the carrier does, an update makes only calls of a few kinds (`Item.Makes`): it looks and
reports, transfers data to where the wanted record has it, makes the database and writes the wanted
record. Past looks and reports it goes only if the policy lets the record be overwritten that is
there; otherwise it is refused (`Item.Finishes`).
-/

namespace CatalogReplication.Task

open Catalog (View Site)
open TaskProgram

/-- The place of the destination that was looked up last. -/
def lookedUp? : List Call → Option Site
  | [] => none
  | .destination (.getTable k) :: _ => some (.table k.tableSpec)
  | .destination (.getPartition k) :: _ => some (.partition k)
  | _ :: earlier => lookedUp? earlier

theorem lookedUp?_aside {c : Call} (hc : c.isAside = true) (log : List Call) :
    lookedUp? (c :: log) = lookedUp? log := by
  cases c with
  | source r => cases hc
  | destination r => cases hc
  | transfer r => rfl
  | hear e => rfl

/-- No conflict is reported, unless a call may report one. -/
def NoConflict {α : Type} (may : Call → Failure → Prop) (r : Except Failure α) : Prop :=
  ∀ x, r = .error (.conflict x) → ∃ c, may c (.conflict x)

variable {E : Partners} {may : Call → Failure → Prop} {α : Type} {m m' : E.Moment} {w : E.World}

theorem noConflict_ok (a : α) : NoConflict may (.ok a) := by
  intro x hx
  cases hx

theorem noConflict_may {c : Call} {e : Failure} (h : may c e) :
    NoConflict may (.error e : Except Failure α) := by
  intro x hx
  cases hx
  exact ⟨c, h⟩

theorem noConflict_of_ne {e : Failure} (h : ∀ x, e ≠ .conflict x) :
    NoConflict may (.error e : Except Failure α) := by
  intro x hx
  exact absurd (Except.error.inj hx) (h x)

/-! ### The data step -/

/-- The catalogs are as they were, and nothing else was looked up since. -/
structure Held (w : E.World) (s : Option Site) (m : E.Moment) : Prop where
  source : m.world.source = w.source
  destination : m.world.destination = w.destination
  lookedUp : lookedUp? m.log = s

theorem Held.beside {s : Option Site} {c : Call} (h : Held w s m) (hc : c.isAside = true)
    (hm : Partners.Beside c m m') : Held w s m' := by
  refine ⟨hm.source.trans h.source, hm.destination.trans h.destination, ?_⟩
  rw [hm.log, lookedUp?_aside hc]
  exact h.lookedUp

/-- The conditions under which a data step is looked at: at every call, the catalogs are held and
data goes to one place only; it ends likewise, without a conflict. -/
abbrev EnsuresHeld (E : Partners) (may : Call → Failure → Prop) (w : E.World) (s : Option Site)
    (target : Option String) (p : TaskProgram α) (m : E.Moment) : Prop :=
  E.EnsuresFreely may
    (fun c m' => Held w s m' ∧ c.isAside = true ∧ ∀ t, c.target? = some t → target = some t)
    (fun r m' => Held w s m' ∧ NoConflict may r) p m

section

variable {s : Option Site} {target : Option String} {spec : Spec} {o : DataOptions}

/-- A call of a data step. -/
theorem held_perform {c : Call} {f : c.Answer → TaskProgram α} (hc : c.isAside = true)
    (ht : ∀ t, c.target? = some t → target = some t) (hm : Held w s m)
    (hnext : ∀ v m', Held w s m' → EnsuresHeld E may w s target (f v) m') :
    EnsuresHeld E may w s target ((Program.perform c).bind f) m := by
  refine Partners.freely_aside hc ⟨hm, hc, ht⟩ (fun v m' hm' => ?_) fun e m' hm' hmay => ?_
  · exact hnext v m' (hm.beside hc hm')
  · exact ⟨hm.beside hc hm', noConflict_may hmay⟩

/-- An event and then the end of a data step. -/
theorem held_emit {kind : EventKind} {details : List (String × Value)} (hm : Held w s m) (a : α) :
    EnsuresHeld E may w s target ((emit spec kind details).bind fun _ => .done a) m :=
  held_perform rfl (fun _ ht => nomatch ht) hm fun _ _ hm' => ⟨hm', noConflict_ok a⟩

/-- A transfer that may fail. -/
theorem held_try {r : Transfer.Request} {f : Except Transfer.Error r.Answer → TaskProgram α}
    (ht : ∀ t, Call.target? (.transfer r) = some t → target = some t) (hm : Held w s m)
    (hnext : ∀ v m', Held w s m' → EnsuresHeld E may w s target (f v) m') :
    EnsuresHeld E may w s target ((tryTransfer r).bind f) m := by
  refine Partners.freely_try ⟨hm, rfl, ht⟩ (fun v m' hm' => ?_) fun e m' hm' hmay => ?_
  · exact hnext v m' (hm.beside rfl hm')
  · exact ⟨hm.beside rfl hm', noConflict_may hmay⟩

theorem copyData_held {a b : String} (hm : Held w s m) :
    EnsuresHeld E may w s (some b) (copyData o spec a b) m := by
  refine held_perform rfl (fun _ ht => nomatch ht) hm fun agrees m₁ hm₁ => ?_
  cases agrees with
  | true => exact held_emit hm₁ _
  | false =>
    cases hallow : o.allowCopy with
    | false => exact held_emit hm₁ _
    | true =>
      refine held_perform rfl (fun _ ht => nomatch ht) hm₁ fun found m₂ hm₂ => ?_
      cases found with
      | false => exact held_emit hm₂ _
      | true =>
        refine held_try (fun _ ht => ht) hm₂ fun copied m₃ hm₃ => ?_
        cases copied with
        | error e => exact held_emit hm₃ _
        | ok n => exact held_emit hm₃ _

theorem moveStaged_held {staged b : String} (hm : Held w s m) :
    EnsuresHeld E may w s (some b) (moveStaged spec staged b) m := by
  refine held_try (fun _ ht => ht) hm fun moved m₁ hm₁ => ?_
  cases moved with
  | error e => exact held_emit hm₁ _
  | ok n => exact held_emit hm₁ _

theorem stagedPath_error {root location : Value} {e : Failure}
    (h : stagedPath root location = .error e) :
    e = .authority ∨ e = .member ∨ e = .arguments := by
  unfold stagedPath at h
  split at h
  · rename_i root location
    cases hstaged : Location.staged root location with
    | ok path =>
      rw [hstaged] at h
      cases h
    | error e' =>
      rw [hstaged] at h
      cases h
      exact .inl rfl
  · split at h
    · cases h
      exact .inr (.inl rfl)
    · cases h
      exact .inl rfl
  · cases h
    split
    · exact .inr (.inl rfl)
    · exact .inr (.inr rfl)

theorem reconcileLocations_held {a b : String} (hm : Held w s m) :
    EnsuresHeld E may w s (some b) (reconcileLocations o spec a b) m := by
  unfold reconcileLocations
  cases hroot : o.stagingRoot.isNull with
  | true => exact copyData_held hm
  | false =>
    cases hpath : stagedPath o.stagingRoot (.text a) with
    | error e =>
      refine ⟨hm, noConflict_of_ne fun x hx => ?_⟩
      rcases stagedPath_error hpath with rfl | rfl | rfl <;> cases hx
    | ok staged =>
      refine held_perform rfl (fun _ ht => nomatch ht) hm fun agrees m₁ hm₁ => ?_
      cases agrees with
      | true => exact moveStaged_held hm₁
      | false =>
        exact held_perform rfl (fun _ ht => nomatch ht) hm₁ fun _ m₂ hm₂ => copyData_held hm₂

/-- **A data step** leaves the catalogs alone and puts data at its destination only. -/
theorem reconcileData_held {a b : Option String} (hm : Held w s m) :
    EnsuresHeld E may w s b (reconcileData o spec a b) m := by
  unfold reconcileData
  cases a with
  | none => exact ⟨hm, noConflict_ok _⟩
  | some a =>
    cases b with
    | none => exact ⟨hm, noConflict_ok _⟩
    | some b =>
      by_cases hab : a = b
      · simp only [if_pos hab]
        exact held_emit hm _
      · simp only [if_neg hab]
        exact reconcileLocations_held hm

end

/-! ### The calls of an update -/

namespace Item

/-- The conflict that is reported of a record that may not be overwritten. -/
def conflict {ρ : Type} [Replicable ρ] (o : Setup) (i : Item ρ) : Conflict where
  spec := Replicable.spec i.record
  destination := o.destination.name.display
  source := o.source.name.display

/-- The failure of an update that is refused: a conflict, once the record has been built. -/
def refusal {ρ : Type} [Catalogued ρ] (o : Setup) (i : Item ρ) (w : E.World) : Failure :=
  match o.builder with
  | none => .member
  | some b =>
    match b.build o.source o.destination i.record (i.existing w) with
    | .error e => e
    | .ok _ => if o.policy.isSome then .conflict (i.conflict o) else .member

section

variable {ρ : Type} [Sited ρ] (o : Setup) (i : Item ρ) (w : E.World)

/-- The calls that an update makes which began in a world, each at the moments at which it may. -/
inductive Makes (m : E.Moment) : Call → Prop where
  | look {r : Catalog.Request} (h : r.isLookup = true) : Makes m (.source r)
  | report (e : Event) : Makes m (.hear e)
  | transfer {r : Transfer.Request} {x : ρ} (hx : i.Wants o w x) (ht : i.Tolerated o w)
      (hm : Held w (some (Sited.site ρ i.spec)) m)
      (htarget : ∀ t, Call.target? (.transfer r) = some t →
        i.ownsData = true ∧ (Maintained.body x).location = some t) : Makes m (.transfer r)
  | house {x : ρ} {d : DatabaseRecord} (hx : i.Wants o w x) (ht : i.Tolerated o w)
      (hd : Houses o w x d) : Makes m (.destination (.createDatabaseIfAbsent d))
  | create {x : ρ} (hx : i.Wants o w x) (ht : i.Tolerated o w) :
      Makes m (.destination (Replicable.create x))
  | alter {x : ρ} (hx : i.Wants o w x) (ht : i.Tolerated o w) :
      Makes m (.destination (Replicable.alter i.spec x))

/-- How an update ends: it is refused, with the destination as it was, or reports no conflict. -/
structure Finishes (may : Call → Failure → Prop) (r : Except Failure Outcome) (m : E.Moment) :
    Prop where
  source : m.world.source = w.source
  refused : ¬ i.Tolerated o w → m.world.destination = w.destination ∧
    ∃ e, r = .error e ∧ ((∃ c, c.isLook = true ∧ may c e) ∨ e = i.refusal o w)
  rejected : ∀ x, r = .error (.conflict x) → (∃ c, may c (.conflict x)) ∨
    (¬ i.Tolerated o w ∧ x = i.conflict o)

/-- The conditions under which what follows in a tolerated update is looked at. -/
abbrev EnsuresMade (E : Partners) (o : Setup) (i : Item ρ) (w : E.World)
    (may : Call → Failure → Prop) {α : Type} (p : TaskProgram α) (m : E.Moment) : Prop :=
  E.EnsuresFreely may (fun c m' => i.Makes o w m' c)
    (fun r m' => m'.world.source = w.source ∧ NoConflict may r) p m

end

variable {ρ : Type} [Sited ρ] {o : Setup} {i : Item ρ} {x : ρ}

/-- An event in the course of an update. -/
theorem made_emit {kind : EventKind} {details : List (String × Value)} {f : Unit → TaskProgram α}
    (hs : m.world.source = w.source)
    (hnext : ∀ m' : E.Moment, m'.world.source = w.source → EnsuresMade E o i w may (f ()) m') :
    EnsuresMade E o i w may ((emit i.spec kind details).bind f) m := by
  refine Partners.freely_aside rfl (.report _) (fun _ m' hm' => ?_) fun e m' hm' hmay => ?_
  · exact hnext m' (hm'.source.trans hs)
  · exact ⟨hm'.source.trans hs, noConflict_may hmay⟩

/-- An event at the end of publishing. -/
theorem made_emit_last {kind : EventKind} {details : List (String × Value)}
    (hs : m.world.source = w.source) :
    EnsuresMade E o i w may (emit i.spec kind details) m := by
  rw [← Program.bind_done (emit i.spec kind details)]
  exact made_emit hs fun m' hs' => ⟨hs', noConflict_ok ()⟩

/-- A change of the destination in the course of an update. -/
theorem made_destination {r : Catalog.Request} {f : r.Answer → TaskProgram α}
    (hs : m.world.source = w.source) (hmakes : i.Makes o w m (.destination r))
    (hnext : ∀ v (m' : E.Moment), m'.world.source = w.source →
      EnsuresMade E o i w may (f v) m') :
    EnsuresMade E o i w may ((Program.perform (Call.destination r)).bind f) m := by
  have hsource : ∀ {a m'}, E.AnswersFreely may (.destination r) m a m' →
      m'.world.source = w.source := fun ha =>
    (Partners.source_of_answers (by rintro r' ⟨⟩) ha).trans hs
  refine Partners.freely_destination hmakes (fun e m' hm' he => ?_)
    (fun v m' ha => hnext v m' (hsource ha)) fun e m' ha hmay => ⟨hsource ha, noConflict_may hmay⟩
  refine ⟨(congrArg Partners.World.source hm').trans hs, ?_⟩
  rcases he with hmay | ⟨e', rfl⟩
  · exact noConflict_may hmay
  · exact noConflict_of_ne fun x hx => nomatch hx

/-- A record is written, and then an event tells of it. -/
theorem made_write {r : Catalog.Request} {kind : EventKind} (hs : m.world.source = w.source)
    (hmakes : i.Makes o w m (.destination r)) :
    EnsuresMade E o i w may ((write r).bind fun _ => emit i.spec kind []) m := by
  unfold write
  simp only [Program.bind_eq_bind, Program.pure_eq_done, Program.bind_assoc, Program.done_bind]
  exact made_destination hs hmakes fun _ _ hs' => made_emit_last hs'

/-- The database of a wanted record is made, and then the record is added. -/
theorem made_create (hx : i.Wants o w x) (ht : i.Tolerated o w) (hs : m.world.source = w.source) :
    EnsuresMade E o i w may
      ((ensureDatabase o i.spec (Replicable.spec x).database).bind fun _ =>
        (write (Replicable.create x)).bind fun _ => emit i.spec .metadataCreated []) m := by
  unfold ensureDatabase
  simp only [Program.bind_eq_bind, Program.pure_eq_done, Program.bind_assoc]
  have hsourceView : m.world.sourceView = w.sourceView := congrArg E.source.view hs
  have hlook : E.Looks (.source (.getDatabase (Replicable.spec x).database)) m.world
      (w.sourceView.database (Replicable.spec x).database) :=
    Partners.looks_source rfl fun now a v' ha => by rw [ha.1, hsourceView]
  refine Partners.freely_look hlook (fun _ hr => nomatch hr) rfl (.look rfl) (fun m₁ hm₁ _ => ?_)
    fun e m₁ hm₁ _ hmay => ⟨(congrArg Partners.World.source hm₁).trans hs, noConflict_may hmay⟩
  have hs₁ : m₁.world.source = w.source := (congrArg Partners.World.source hm₁).trans hs
  cases hd : Builder.buildDatabase o.source o.destination
      (w.sourceView.database (Replicable.spec x).database) (Replicable.spec x).database with
  | error e =>
    refine ⟨hs₁, noConflict_of_ne fun c hc => ?_⟩
    rcases Builder.buildDatabase_error hd with rfl | rfl <;> cases hc
  | ok d =>
    refine made_destination hs₁ (.house hx ht hd) fun made m₂ hs₂ => ?_
    cases made with
    | false => exact made_write hs₂ (.create hx ht)
    | true =>
      refine made_emit hs₂ fun m₃ hs₃ => ?_
      exact made_write hs₃ (.create hx ht)

/-! ### How an update ends -/

/-- A tolerated update that leaves the source alone and reports no conflict. -/
theorem Finishes.of_tolerated {r : Except Failure Outcome} (ht : i.Tolerated o w)
    (hs : m.world.source = w.source) (hr : NoConflict may r) : i.Finishes o w may r m :=
  ⟨hs, fun hnot => absurd ht hnot, fun x hx => .inl (hr x hx)⟩

theorem check_error {policy : ConflictPolicy} {p : Parameters} {c : Conflict}
    (h : policy.check o.source o.destination (Replicable.spec i.record) p = .error c) :
    c = i.conflict o := by
  unfold ConflictPolicy.check at h
  split at h
  · cases h
  · cases policy with
    | logging => cases h
    | raising =>
      cases h
      rfl

theorem refusal_of_wants (hx : i.Wants o w x) :
    i.refusal o w = if o.policy.isSome then .conflict (i.conflict o) else .member := by
  obtain ⟨b, hb, hbuild⟩ := hx
  unfold refusal
  simp only [hb, hbuild]

theorem refusal_of_unbuilt (hx : ∀ x, ¬ i.Wants o w x) :
    expect o i.record (i.existing w) = (.fail (i.refusal o w) : TaskProgram ρ) ∧
      ∀ c, i.refusal o w ≠ .conflict c := by
  unfold expect refusal
  cases hb : o.builder with
  | none => exact ⟨rfl, fun _ hc => nomatch hc⟩
  | some b =>
    simp only
    cases hbuild : b.build o.source o.destination i.record (i.existing w) with
    | ok x => exact absurd ⟨b, hb, hbuild⟩ (hx x)
    | error e =>
      refine ⟨rfl, fun c hc => ?_⟩
      rcases Builder.build_error hbuild with rfl | rfl | rfl <;> cases hc

/-- An update that is refused, or that failed before. -/
theorem Finishes.of_refused {e : Failure} (hx : i.Wants o w x) (ht : ¬ i.Tolerated o w)
    (hm : Held w (some (Sited.site ρ i.spec)) m)
    (he : (∃ c, c.isLook = true ∧ may c e) ∨ e = i.refusal o w) :
    i.Finishes o w may (.error e) m := by
  refine ⟨hm.source, fun _ => ⟨hm.destination, e, rfl, he⟩, fun c hc => ?_⟩
  cases hc
  rcases he with ⟨c', -, hmay⟩ | hrefusal
  · exact .inl ⟨c', hmay⟩
  · rw [refusal_of_wants hx] at hrefusal
    split at hrefusal
    · exact .inr ⟨ht, Failure.conflict.inj hrefusal⟩
    · cases hrefusal

/-- The policy lets the record be overwritten, perhaps with a warning. -/
theorem checkConflict_of_tolerated {e : ρ} (he : i.existing w = some e) (ht : i.Tolerated o w) :
    ∃ warning : Option Overwrite,
      checkConflict o (Replicable.spec i.record) (Maintained.body e).parameters =
        match warning with
        | none => .done ()
        | some n => Program.tell n := by
  obtain ⟨policy, warning, hpolicy, hcheck⟩ := ht e he
  refine ⟨warning, ?_⟩
  unfold checkConflict
  simp only [hpolicy, hcheck]
  cases warning with
  | none => rfl
  | some n => rfl

/-- The policy doesn't let the record be overwritten. -/
theorem checkConflict_of_not_tolerated (hx : i.Wants o w x) (ht : ¬ i.Tolerated o w) :
    ∃ e, i.existing w = some e ∧
      checkConflict o (Replicable.spec i.record) (Maintained.body e).parameters =
        (.fail (i.refusal o w) : TaskProgram Unit) := by
  rw [refusal_of_wants hx]
  cases he : i.existing w with
  | none =>
    refine absurd (fun e he' => ?_) ht
    rw [he] at he'
    cases he'
  | some e =>
    refine ⟨e, rfl, ?_⟩
    unfold checkConflict
    cases hpolicy : o.policy with
    | none => rfl
    | some policy =>
      cases hcheck : policy.check o.source o.destination (Replicable.spec i.record)
          (Maintained.body e).parameters with
      | ok warning =>
        refine absurd (fun e' he' => ⟨policy, warning, hpolicy, ?_⟩) ht
        rw [he] at he'
        obtain rfl := Option.some.inj he'
        exact hcheck
      | error c =>
        obtain rfl : c = i.conflict o := check_error hcheck
        simp only [hcheck, Option.isSome_some, if_true]

/-! ### Updating -/

variable [DecidableEq ρ]

theorem publish_made {existing : Option ρ} (hx : i.Wants o w x) (ht : i.Tolerated o w)
    (hs : m.world.source = w.source) :
    EnsuresMade E o i w may (publish o i.spec existing x) m := by
  unfold publish
  cases Action.decide existing x with
  | create => exact made_create hx ht hs
  | alter => exact made_write hs (.alter hx ht)
  | keep => exact made_emit_last hs

theorem finish_made {existing : Option ρ} {n : Int} (hx : i.Wants o w x) (ht : i.Tolerated o w)
    (hs : m.world.source = w.source) :
    EnsuresMade E o i w may (finish o i existing x n) m := by
  unfold finish
  refine Program.Ensures.bind (publish_made hx ht hs) (fun _ m' h => ?_) fun e m' h => ?_
  · refine made_emit h.1 fun m₂ hs₂ => ?_
    cases n with
    | ofNat k => exact ⟨hs₂, noConflict_ok _⟩
    | negSucc k => exact ⟨hs₂, noConflict_of_ne fun x hx => nomatch hx⟩
  · refine ⟨h.1, fun c hc => h.2 c ?_⟩
    cases hc
    rfl

/-- What follows in an update that is tolerated. -/
theorem carry_made {existing : Option ρ} (hx : i.Wants o w x) (ht : i.Tolerated o w)
    (hm : Held w (some (Sited.site ρ i.spec)) m) :
    EnsuresMade E o i w may (carry o i existing x) m := by
  unfold carry
  cases howns : i.ownsData with
  | false => exact finish_made hx ht hm.source
  | true =>
    have hdata : EnsuresHeld E may w (some (Sited.site ρ i.spec)) (Maintained.body x).location
        (reconcileData o.dataOptions i.spec (Maintained.body i.record).location
          (Maintained.body x).location) m := reconcileData_held hm
    refine Program.Ensures.bind (hdata.mono (fun c m' h => ?_) fun _ _ h => h)
      (fun d m' h => ?_) fun e m' h => ?_
    · obtain ⟨hheld, haside, htarget⟩ := h
      cases c with
      | source r => cases haside
      | destination r => cases haside
      | hear e => exact .report e
      | transfer r => exact .transfer hx ht hheld fun t htr => ⟨howns, htarget t htr⟩
    · cases hout : d.outcome with
      | some out => exact ⟨h.1.source, noConflict_ok _⟩
      | none => exact finish_made hx ht h.1.source
    · refine ⟨h.1.source, fun c hc => h.2 c ?_⟩
      cases hc
      rfl

/-- The conditions under which an update is looked at: at every call and at the end. -/
abbrev EnsuresFinishes (E : Partners) (o : Setup) (i : Item ρ) (w : E.World)
    (may : Call → Failure → Prop) (p : TaskProgram Outcome) (m : E.Moment) : Prop :=
  E.EnsuresFreely may (fun c m' => i.Makes o w m' c) (fun r m' => i.Finishes o w may r m') p m

/-- An update whose record may be overwritten, if there is one. -/
theorem update_finishes_of_tolerated (hx : i.Wants o w x) (ht : i.Tolerated o w)
    (hm : Held w (some (Sited.site ρ i.spec)) m) :
    EnsuresFinishes E o i w may (update o i.spec i.ownsData i.record (i.existing w)) m := by
  have hcarry : ∀ existing {m₁}, Held w (some (Sited.site ρ i.spec)) m₁ →
      EnsuresFinishes E o i w may (carry o i existing x) m₁ := fun _ _ hm₁ =>
    (carry_made hx ht hm₁).mono (fun _ _ h => h) fun _ _ h => .of_tolerated ht h.1 h.2
  rw [update_eq, expect_of_wants hx]
  simp only [Program.done_bind]
  cases he : i.existing w with
  | none => exact hcarry none hm
  | some e =>
    refine Partners.freely_aside rfl (.report _) (fun _ m₁ hm₁ => ?_) fun e m₁ hm₁ hmay => ?_
    · obtain ⟨warning, hcheck⟩ := checkConflict_of_tolerated he ht
      have hgo := hcarry (some e) (hm.beside rfl hm₁)
      rw [hcheck]
      cases warning with
      | none => exact hgo
      | some n => exact hgo
    · exact .of_tolerated ht (hm₁.source.trans hm.source) (noConflict_may hmay)

/-- An update whose record may not be overwritten. -/
theorem update_finishes_of_not_tolerated (hx : i.Wants o w x) (ht : ¬ i.Tolerated o w)
    (hm : Held w (some (Sited.site ρ i.spec)) m) :
    EnsuresFinishes E o i w may (update o i.spec i.ownsData i.record (i.existing w)) m := by
  obtain ⟨e, he, hcheck⟩ := checkConflict_of_not_tolerated hx ht
  rw [update_eq, expect_of_wants hx, he]
  refine Partners.freely_aside rfl (.report _) (fun _ m₁ hm₁ => ?_) fun e' m₁ hm₁ hmay => ?_
  · rw [hcheck]
    exact .of_refused hx ht (hm.beside rfl hm₁) (.inr rfl)
  · exact .of_refused hx ht (hm.beside rfl hm₁) (.inl ⟨_, rfl, hmay⟩)

/-- **An update** makes only calls of its kinds; it is refused if the record that is there may not
be overwritten, and reports no conflict otherwise. -/
theorem update_finishes (hw : m.world = w)
    (hlooked : lookedUp? m.log = some (Sited.site ρ i.spec)) :
    EnsuresFinishes E o i w may (update o i.spec i.ownsData i.record (i.existing w)) m := by
  have hheld : Held w (some (Sited.site ρ i.spec)) m := by
    subst hw
    exact ⟨rfl, rfl, hlooked⟩
  by_cases hwants : ∃ x, i.Wants o w x
  · obtain ⟨x, hx⟩ := hwants
    by_cases ht : i.Tolerated o w
    · exact update_finishes_of_tolerated hx ht hheld
    · exact update_finishes_of_not_tolerated hx ht hheld
  · -- Nothing is wanted: the update ends before the policy is asked.
    have hnone : ∀ x, ¬ i.Wants o w x := fun x hx => hwants ⟨x, hx⟩
    obtain ⟨hexpect, he⟩ := refusal_of_unbuilt hnone
    rw [update_eq, hexpect]
    refine ⟨hheld.source, fun _ => ⟨hheld.destination, _, rfl, .inr rfl⟩, fun c hc => ?_⟩
    exact absurd (Except.error.inj hc) (he c)

/-! ### Where an update writes -/

omit [DecidableEq ρ] in
/-- An update writes at the place of its record, and at that of its database. -/
theorem Makes.site {c : Call} {s : Site} (h : i.Makes o w m c) (hi : i.IsIdentified)
    (hs : c.site? = some s) : s = Sited.site ρ i.spec ∨
      ∃ x d, i.Wants o w x ∧ Houses o w x d ∧ s = .database d.name := by
  cases h with
  | look h =>
    cases hs
  | report e => cases hs
  | transfer hx ht hm htarget => cases hs
  | house hx ht hd => exact .inr ⟨_, _, hx, hd, (Option.some.inj hs).symm⟩
  | @create x hx ht =>
    left
    have hsite : Sited.site ρ (Replicable.spec x) = s :=
      Option.some.inj ((Sited.site?_create x).symm.trans hs)
    rw [← hsite, spec_of_wants hx, hi, Sited.site_key]
  | @alter x hx ht =>
    left
    have hsite : Sited.site ρ (Catalogued.alterKey i.spec x) = s :=
      Option.some.inj ((Sited.site?_alter i.spec x).symm.trans hs)
    have hkey : Replicable.spec x = Catalogued.key ρ i.spec := (spec_of_wants hx).trans hi
    rw [← hsite, Catalogued.alterKey_of_spec hkey, Sited.site_key]

omit [DecidableEq ρ] in
/-- An update only looks at the source. -/
theorem Makes.looks {r : Catalog.Request} (h : i.Makes o w m (.source r)) : r.isLookup = true := by
  cases h with
  | look h => exact h

omit [DecidableEq ρ] in
/-- An update goes beyond looks only if the record that is there may be overwritten. -/
theorem Makes.tolerated {c : Call} (h : i.Makes o w m c) (hc : c.isLook = false) :
    i.Tolerated o w := by
  cases h with
  | look h =>
    rw [Call.isLook, h] at hc
    cases hc
  | report _ => cases hc
  | transfer _ ht _ _ => exact ht
  | house _ ht _ => exact ht
  | create _ ht => exact ht
  | alter _ ht => exact ht

omit [DecidableEq ρ] in
/-- An update looks nothing up at the destination. -/
theorem Makes.isLookup_eq_false {r : Catalog.Request} (h : i.Makes o w m (.destination r)) :
    r.isLookup = false := by
  have hwrites : r.site? ≠ none := by
    generalize hc : Call.destination r = c at h
    cases h with
    | look _ => cases hc
    | report _ => cases hc
    | transfer _ _ _ _ => cases hc
    | house _ _ _ =>
      obtain rfl := Call.destination.inj hc
      exact nofun
    | create _ _ =>
      obtain rfl := Call.destination.inj hc
      rw [Sited.site?_create]
      exact nofun
    | alter _ _ =>
      obtain rfl := Call.destination.inj hc
      rw [Sited.site?_alter]
      exact nofun
  rwa [ne_eq, Catalog.Request.site?_eq_none_iff, Bool.not_eq_true] at hwrites

end Item

end CatalogReplication.Task
