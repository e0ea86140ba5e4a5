import CatalogReplication.Proofs.Record.Comparable
import CatalogReplication.Proofs.Task.Builder
import CatalogReplication.Proofs.Task.Data
import CatalogReplication.Task.Replicate

/-!
# Updating one object

An item is a record of the source that is to be brought up to date at the destination. Its update
goes through stages: nothing of the destination is touched until the data is in place
(`Item.Underway.early`); then its database is there, then its record is (`Item.Underway.late`).

* `Item.Completes`: what it takes to succeed, and with what content of the destination.
* `Item.update_ensures`: an update is in one of its stages at every point; it succeeds only by
  completing, without faults whenever it can, and without success it leaves the destination alone.
-/

namespace CatalogReplication.Task

open Catalog (View)
open TaskProgram

/-- A record that is to be brought up to date, with the spec that names it. -/
structure Item (ρ : Type) where
  spec : Spec
  ownsData : Bool
  record : ρ

/-- Asking the policy goes on if it lets the record be overwritten, and fails otherwise. -/
theorem checkConflict_ensures {α : Type} {E : Partners} {faulty : Prop}
    {before : Call → E.Moment → Prop} {after : Except Failure α → E.Moment → Prop} {o : Setup}
    {spec : Spec} {p : Parameters} {f : Unit → TaskProgram α} {m : E.Moment}
    (hok : ∀ policy warning, o.policy = some policy →
      policy.check o.source o.destination spec p = .ok warning →
      E.Ensures faulty before after (f ()) m)
    (hfail : (∀ policy warning, o.policy = some policy →
      policy.check o.source o.destination spec p ≠ .ok warning) → ∀ e, after (.error e) m) :
    E.Ensures faulty before after ((checkConflict o spec p).bind f) m := by
  unfold checkConflict
  cases hpolicy : o.policy with
  | none =>
    exact hfail (fun policy warning h => by rw [hpolicy] at h; cases h) _
  | some policy =>
    simp only
    cases hcheck : policy.check o.source o.destination spec p with
    | error c =>
      refine hfail (fun policy' warning h h' => ?_) _
      rw [hpolicy] at h
      cases h
      rw [hcheck] at h'
      cases h'
    | ok warning =>
      have hnext := hok policy warning hpolicy hcheck
      cases warning <;> exact hnext

namespace Item

section

variable {ρ : Type} [Catalogued ρ] {E : Partners} (o : Setup) (i : Item ρ) (w : E.World)

/-- What the destination has under the spec. -/
def existing : Option ρ := Catalogued.find i.spec w.view

/-- The builder makes a record for the destination. -/
def Wants (x : ρ) : Prop :=
  ∃ b, o.builder = some b ∧ b.build o.source o.destination i.record (i.existing w) = .ok x

/-- The policy lets the record that is there be overwritten. -/
def Tolerated : Prop :=
  ∀ e, i.existing w = some e → ∃ policy warning, o.policy = some policy ∧
    policy.check o.source o.destination (Replicable.spec i.record)
      (Maintained.body e).parameters = .ok warning

/-- The data step for a wanted record succeeds, if there is one. -/
def Carried (x : ρ) (files : E.carrier.State) (n : Int) : Prop :=
  if i.ownsData then
    Carries E.carrier o.dataOptions i.spec w.files (Maintained.body i.record).location
      (Maintained.body x).location files n
  else files = w.files ∧ n = 0

/-- The database that is made for a wanted record. -/
def Houses (x : ρ) (d : DatabaseRecord) : Prop :=
  Builder.buildDatabase o.source o.destination
    (w.sourceView.database (Replicable.spec x).database) (Replicable.spec x).database = .ok d

/-- The content of the destination when the database of a new record is there. -/
def Prepared (x : ρ) (v : View) : Prop :=
  i.existing w = none ∧ ∃ d, Houses o w x d ∧ v = w.view.ensureDatabase d

/-- A world in which the data of a wanted record is in place and nothing else was done yet. -/
structure Ready (x : ρ) (n : Int) (w' : E.World) : Prop where
  source : w'.source = w.source
  destination : w'.destination = w.destination
  wants : i.Wants o w x
  tolerated : i.Tolerated o w
  carried : i.Carried o w x w'.files n

variable {o i w} {x : ρ}

theorem Wants.unique {y : ρ} (hx : i.Wants o w x) (hy : i.Wants o w y) : x = y := by
  obtain ⟨b, hb, hx⟩ := hx
  obtain ⟨b', hb', hy⟩ := hy
  rw [hb] at hb'
  cases hb'
  rw [hx] at hy
  cases hy
  rfl

theorem Carried.unique {files₁ files₂ : E.carrier.State} {n₁ n₂ : Int}
    (h₁ : i.Carried o w x files₁ n₁) (h₂ : i.Carried o w x files₂ n₂) :
    files₁ = files₂ ∧ n₁ = n₂ := by
  unfold Carried at h₁ h₂
  split at h₁
  · rw [if_pos ‹_›] at h₂
    exact carries_unique h₁ h₂
  · rw [if_neg ‹_›] at h₂
    exact ⟨h₁.1.trans h₂.1.symm, h₁.2.trans h₂.2.symm⟩

theorem Houses.unique {d d' : DatabaseRecord} (h : Houses o w x d) (h' : Houses o w x d') :
    d = d' := by
  unfold Houses at h h'
  rw [h] at h'
  cases h'
  rfl

theorem Ready.view {n : Int} {w' : E.World} (h : i.Ready o w x n w') : w'.view = w.view :=
  congrArg E.destination.view h.destination

theorem Ready.sourceView {n : Int} {w' : E.World}
    (h : i.Ready o w x n w') : w'.sourceView = w.sourceView :=
  congrArg E.source.view h.source

theorem expect_of_wants (hx : i.Wants o w x) :
    expect o i.record (i.existing w) = (.done x : TaskProgram ρ) := by
  obtain ⟨b, hb, hbuild⟩ := hx
  unfold expect
  rw [hb]
  show Program.ofExcept _ = _
  rw [hbuild]
  rfl

theorem expect_of_not_wants (hx : ∀ x, ¬ i.Wants o w x) :
    ∃ e, expect o i.record (i.existing w) = (.fail e : TaskProgram ρ) := by
  unfold expect
  cases hb : o.builder with
  | none => exact ⟨_, rfl⟩
  | some b =>
    cases hbuild : b.build o.source o.destination i.record (i.existing w) with
    | error e => exact ⟨e, congrArg Program.ofExcept hbuild⟩
    | ok x => exact absurd ⟨b, hb, hbuild⟩ (hx x)

end

/-! ### The stages of an update -/

section

variable {ρ : Type} [Catalogued ρ] [DecidableEq ρ] {E : Partners} (o : Setup) (i : Item ρ)
  (w : E.World)

/-- The content of the destination when a wanted record is there. -/
inductive Published (x : ρ) : View → Prop where
  | created {d : DatabaseRecord} {now id : Int} (h : Action.decide (i.existing w) x = .create)
      (hd : Houses o w x d)
      (hr : (w.view.ensureDatabase d).rejection? (Replicable.create x) = none) :
      Published x (Catalogued.put (Replicable.spec x) (Catalog.stamp now id none x)
        (w.view.ensureDatabase d))
  | altered {now id : Int} {created : Option Int}
      (h : Action.decide (i.existing w) x = .alter)
      (hr : w.view.rejection? (Replicable.alter i.spec x) = none) :
      Published x (Catalogued.put (Catalogued.alterKey i.spec x)
        (Catalog.stamp now id created x) w.view)
  | kept (h : Action.decide (i.existing w) x = .keep) : Published x w.view

/-- An update in a world succeeds, with these files and this content of the destination. -/
def Completes (files : E.carrier.State) (v : View) : Prop :=
  ∃ x n, i.Wants o w x ∧ i.Tolerated o w ∧ i.Carried o w x files n ∧ 0 ≤ n ∧
    i.Published o w x v

/-- A world in the course of an update that began in another one. -/
inductive Underway (w' : E.World) : Prop where
  | early (hs : w'.source = w.source) (hd : w'.destination = w.destination)
      (hf : w'.files = w.files ∨
        ∀ x files n, i.Wants o w x → i.Carried o w x files n → w'.files = files)
  | late {x : ρ} {n : Int} (hs : w'.source = w.source) (hx : i.Wants o w x)
      (ht : i.Tolerated o w) (hc : i.Carried o w x w'.files n)
      (hv : i.Prepared o w x w'.view ∨ i.Published o w x w'.view)

/-- How an update that began in a world may end. -/
structure Updated (faulty : Prop) (r : Except Failure Outcome) (w' : E.World) : Prop where
  underway : i.Underway o w w'
  completes : ∀ out, r = .ok out → out.isSuccessful = true → i.Completes o w w'.files w'.view
  unchanged : ∀ out, r = .ok out → out.isSuccessful = false → w'.destination = w.destination
  succeeds : ¬ faulty → (∃ files v, i.Completes o w files v) →
    ∃ out, r = .ok out ∧ out.isSuccessful = true

end

variable {ρ : Type} [Catalogued ρ] [DecidableEq ρ] {E : Partners} {o : Setup} {i : Item ρ}
  {w w' : E.World} {x : ρ} {n : Int} {faulty : Prop}

theorem Underway.refl : i.Underway o w w := .early rfl rfl (.inl rfl)

theorem Underway.source (h : i.Underway o w w') : w'.source = w.source := by
  cases h with
  | early hs _ _ => exact hs
  | late hs _ _ _ _ => exact hs

theorem Ready.underway (h : i.Ready o w x n w') : i.Underway o w w' := by
  refine .early h.source h.destination (.inr fun y files n' hy hc => ?_)
  obtain rfl := h.wants.unique hy
  exact (h.carried.unique hc).1

/-! ### Ends of an update -/

section

variable {r : Except Failure Outcome}

/-- A fault ends an update wherever it is. -/
theorem Updated.of_fault (hf : faulty) (e : Failure) (h : i.Underway o w w') :
    i.Updated o w faulty (.error e) w' :=
  ⟨h, (fun _ hr => nomatch hr), (fun _ hr => nomatch hr), fun hclean => absurd hf hclean⟩

/-- An update that can't succeed ends in an error. -/
theorem Updated.of_stuck (e : Failure) (h : i.Underway o w w')
    (hstuck : ∀ files v, ¬ i.Completes o w files v) : i.Updated o w faulty (.error e) w' :=
  ⟨h, (fun _ hr => nomatch hr), (fun _ hr => nomatch hr),
    fun _ ⟨files, v, hc⟩ => absurd hc (hstuck files v)⟩

/-- An update whose data step didn't succeed. -/
theorem Updated.of_unsuccessful {out : Outcome} (h : i.Underway o w w')
    (hout : out.isSuccessful = false) (hd : w'.destination = w.destination)
    (hfail : faulty ∨ ∀ files v, ¬ i.Completes o w files v) :
    i.Updated o w faulty (.ok out) w' := by
  refine ⟨h, fun out' hr hout' => ?_, fun _ _ _ => hd, fun hclean ⟨files, v, hc⟩ => ?_⟩
  · cases hr
    rw [hout] at hout'
    cases hout'
  · rcases hfail with hf | hstuck
    · exact absurd hf hclean
    · exact absurd hc (hstuck files v)

end

/-! ### Publishing -/

/-- How publishing a wanted record may end. -/
structure Written (E : Partners) (o : Setup) (i : Item ρ) (w : E.World) (x : ρ) (n : Int)
    (faulty : Prop) (r : Except Failure Unit) (w' : E.World) : Prop where
  underway : i.Underway o w w'
  published : ∀ u, r = .ok u → i.Carried o w x w'.files n ∧ i.Published o w x w'.view
  succeeds : ¬ faulty → (∃ v, i.Published o w x v) → ∃ u, r = .ok u

/-- A fault ends publishing wherever it is. -/
theorem Written.of_fault (hf : faulty) (e : Failure) (h : i.Underway o w w') :
    Written E o i w x n faulty (.error e) w' :=
  ⟨h, (fun _ hr => nomatch hr), fun hclean => absurd hf hclean⟩

/-- Publishing that can't succeed ends in an error. -/
theorem Written.of_stuck (e : Failure) (h : i.Underway o w w')
    (hstuck : ∀ v, ¬ i.Published o w x v) : Written E o i w x n faulty (.error e) w' :=
  ⟨h, (fun _ hr => nomatch hr), fun _ ⟨v, hv⟩ => absurd hv (hstuck v)⟩

/-- The conditions under which publishing is looked at: at every call and at the end. -/
abbrev EnsuresWritten (E : Partners) (o : Setup) (i : Item ρ) (w : E.World) (x : ρ) (n : Int)
    (faulty : Prop) (p : TaskProgram Unit) (m : E.Moment) : Prop :=
  E.Ensures faulty (fun _ m' => i.Underway o w m'.world)
    (fun r m' => Written E o i w x n faulty r m'.world) p m

variable {m : E.Moment} {w₁ : E.World}

/-- A look in the course of publishing. -/
theorem ensuresWritten_look {c : Call} {v : c.Answer} {f : c.Answer → TaskProgram Unit}
    (hlook : E.Looks c w₁ v) (hw : m.world = w₁) (h : i.Underway o w w₁)
    (hnext : ∀ m' : E.Moment, m'.world = w₁ → EnsuresWritten E o i w x n faulty (f v) m') :
    EnsuresWritten E o i w x n faulty ((Program.perform c).bind f) m :=
  Partners.ensures_look hlook hw (hw ▸ h) (fun m' hm' _ => hnext m' hm')
    fun hf e _ hm' _ => .of_fault hf e (hm' ▸ h)

/-- Publishing ends with an event when the record is there. -/
theorem ensuresWritten_emit {kind : EventKind} (hw : m.world = w') (hs : w'.source = w.source)
    (hx : i.Wants o w x) (ht : i.Tolerated o w) (hc : i.Carried o w x w'.files n)
    (hv : i.Published o w x w'.view) :
    EnsuresWritten E o i w x n faulty (emit i.spec kind []) m := by
  have hunderway : i.Underway o w w' := .late hs hx ht hc (.inr hv)
  refine Partners.ensures_look_last (Partners.looks_hear _ w') hw (hw ▸ hunderway)
    (fun m' hm' _ => ?_) fun hf e m' hm' _ => .of_fault hf e (hm' ▸ hunderway)
  rw [hm']
  exact ⟨hunderway, fun _ _ => ⟨hc, hv⟩, fun _ _ => ⟨(), rfl⟩⟩

/-- Replacing a record. -/
theorem alter_ensures (hw : m.world = w₁) (hready : i.Ready o w x n w₁)
    (h : Action.decide (i.existing w) x = .alter) :
    EnsuresWritten E o i w x n faulty
      ((write (Replicable.alter i.spec x)).bind fun _ => emit i.spec .metadataAltered []) m := by
  unfold write
  simp only [Program.bind_eq_bind, Program.pure_eq_done, Program.bind_assoc, Program.done_bind]
  refine Partners.ensures_destination hw (hw ▸ hready.underway) (fun hfail e m' hm' => ?_)
    (fun hr now a w₂ hs hf hview m' hm' => ?_)
  · rw [hm']
    rcases hfail with hfault | ⟨e', hr⟩
    · exact .of_fault hfault e hready.underway
    · rw [hready.view] at hr
      refine .of_stuck e hready.underway fun v hv => ?_
      cases hv with
      | created h' _ _ => rw [h] at h'; cases h'
      | altered _ hr' => rw [hr] at hr'; cases hr'
      | kept h' => rw [h] at h'; cases h'
  · rw [hready.view] at hr hview
    obtain ⟨id, created, hput⟩ := Catalogued.put_of_alter hview
    have hv : i.Published o w x w₂.view := hput ▸ .altered h hr
    have hc : i.Carried o w x w₂.files n := hf ▸ hready.carried
    have hsource := hs.trans hready.source
    refine ⟨ensuresWritten_emit hm' hsource hready.wants hready.tolerated hc hv, fun hfault e => ?_⟩
    rw [hm']
    exact .of_fault hfault e (.late hsource hready.wants hready.tolerated hc (.inr hv))

/-- Adding a record whose database is there. -/
theorem insert_ensures {d : DatabaseRecord} (hw : m.world = w') (hs : w'.source = w.source)
    (hx : i.Wants o w x) (ht : i.Tolerated o w) (hc : i.Carried o w x w'.files n)
    (h : Action.decide (i.existing w) x = .create) (hd : Houses o w x d)
    (hview : w'.view = w.view.ensureDatabase d) :
    EnsuresWritten E o i w x n faulty
      ((write (Replicable.create x)).bind fun _ => emit i.spec .metadataCreated []) m := by
  have hunderway : i.Underway o w w' :=
    .late hs hx ht hc (.inl ⟨Action.decide_eq_create_iff.1 h, d, hd, hview⟩)
  unfold write
  simp only [Program.bind_eq_bind, Program.pure_eq_done, Program.bind_assoc, Program.done_bind]
  refine Partners.ensures_destination hw (hw ▸ hunderway) (fun hfail e m' hm' => ?_)
    (fun hr now a w₂ hs₂ hf hview₂ m' hm' => ?_)
  · rw [hm']
    rcases hfail with hfault | ⟨e', hr⟩
    · exact .of_fault hfault e hunderway
    · rw [hview] at hr
      refine .of_stuck e hunderway fun v hv => ?_
      cases hv with
      | created _ hd' hr' =>
        obtain rfl := hd.unique hd'
        rw [hr] at hr'
        cases hr'
      | altered h' _ => rw [h] at h'; cases h'
      | kept h' => rw [h] at h'; cases h'
  · rw [hview] at hr hview₂
    obtain ⟨id, hput⟩ := Catalogued.put_of_create hview₂
    have hv : i.Published o w x w₂.view := hput ▸ .created h hd hr
    have hc₂ : i.Carried o w x w₂.files n := hf ▸ hc
    refine ⟨ensuresWritten_emit hm' (hs₂.trans hs) hx ht hc₂ hv, fun hfault e => ?_⟩
    rw [hm']
    exact .of_fault hfault e (.late (hs₂.trans hs) hx ht hc₂ (.inr hv))

/-- Adding a record, after its database. -/
theorem create_ensures (hw : m.world = w₁) (hready : i.Ready o w x n w₁)
    (h : Action.decide (i.existing w) x = .create) :
    EnsuresWritten E o i w x n faulty
      ((ensureDatabase o i.spec (Replicable.spec x).database).bind fun _ =>
        (write (Replicable.create x)).bind fun _ => emit i.spec .metadataCreated []) m := by
  obtain ⟨hs, hd, hx, ht, hc⟩ := id hready
  unfold ensureDatabase
  simp only [Program.bind_eq_bind, Program.pure_eq_done, Program.bind_assoc]
  have hlook : E.Looks (.source (.getDatabase (Replicable.spec x).database)) w₁
      (w.sourceView.database (Replicable.spec x).database) :=
    Partners.looks_source rfl fun now a v' ha => by rw [ha.1, hready.sourceView]
  refine ensuresWritten_look hlook hw hready.underway fun m₂ hm₂ => ?_
  cases hdatabase : Builder.buildDatabase o.source o.destination
      (w.sourceView.database (Replicable.spec x).database) (Replicable.spec x).database with
  | error e =>
    refine Written.of_stuck e (hm₂ ▸ hready.underway) fun v hv => ?_
    cases hv with
    | created _ hd' _ => rw [Houses, hdatabase] at hd'; cases hd'
    | altered h' _ => rw [h] at h'; cases h'
    | kept h' => rw [h] at h'; cases h'
  | ok d =>
    refine Partners.ensures_destination hm₂ (hm₂ ▸ hready.underway)
      (fun hfail e m' hm' => ?_) (fun hr now a w₂ hs₂ hf hview m' hm' => ?_)
    · rcases hfail with hfault | ⟨e', hr⟩
      · exact .of_fault hfault e (hm' ▸ hready.underway)
      · cases hr
    · have hview₂ : w₂.view = w.view.ensureDatabase d := by rw [hview.2, hready.view]
      have hsource := hs₂.trans hs
      have hc₂ : i.Carried o w x w₂.files n := hf ▸ hc
      have hunderway : i.Underway o w w₂ :=
        .late hsource hx ht hc₂ (.inl ⟨Action.decide_eq_create_iff.1 h, d, hdatabase, hview₂⟩)
      have hinsert : ∀ m : E.Moment, m.world = w₂ → EnsuresWritten E o i w x n faulty
          ((write (Replicable.create x)).bind fun _ => emit i.spec .metadataCreated []) m :=
        fun _ hm => insert_ensures hm hsource hx ht hc₂ h hdatabase hview₂
      refine ⟨?_, fun hfault e => .of_fault hfault e (hm' ▸ hunderway)⟩
      cases a with
      | false => exact hinsert m' hm'
      | true =>
        exact ensuresWritten_look (Partners.looks_hear _ w₂) hm' hunderway hinsert

/-- **Publishing**: at every point the update is in one of its stages, and it ends with the record
in place, without faults whenever it can. -/
theorem publish_ensures (hw : m.world = w₁) (hready : i.Ready o w x n w₁) :
    EnsuresWritten E o i w x n faulty (publish o i.spec (i.existing w) x) m := by
  unfold publish
  cases h : Action.decide (i.existing w) x with
  | create => exact create_ensures hw hready h
  | alter => exact alter_ensures hw hready h
  | keep =>
    have hv : i.Published o w x w₁.view := hready.view ▸ .kept h
    exact ensuresWritten_emit hw hready.source hready.wants hready.tolerated hready.carried hv

/-! ### Updating -/

/-- An update from where the data is in place. -/
def finish (o : Setup) (i : Item ρ) (existing : Option ρ) (x : ρ) (bytes : Int) :
    TaskProgram Outcome := do
  publish o i.spec existing x
  emit i.spec .taskComplete [("bytes_copied", .int bytes)]
  .ofExcept (Outcome.make .successful bytes)

/-- An update from where the policy has been asked. -/
def carry (o : Setup) (i : Item ρ) (existing : Option ρ) (x : ρ) : TaskProgram Outcome :=
  if i.ownsData then do
    let data ← reconcileData o.dataOptions i.spec (Maintained.body i.record).location
      (Maintained.body x).location
    match data.outcome with
    | some outcome => return outcome
    | none => finish o i existing x data.bytes
  else finish o i existing x 0

theorem update_eq (o : Setup) (i : Item ρ) (existing : Option ρ) :
    update o i.spec i.ownsData i.record existing =
      (expect o i.record existing).bind fun x =>
        match existing with
        | none => carry o i none x
        | some e => (emit i.spec .destinationExists []).bind fun _ =>
            (checkConflict o (Replicable.spec i.record) (Maintained.body e).parameters).bind
              fun _ => carry o i (some e) x := by
  unfold update
  cases existing <;> rfl

/-- The conditions under which an update is looked at: at every call and at the end. -/
abbrev EnsuresUpdate (E : Partners) (o : Setup) (i : Item ρ) (w : E.World) (faulty : Prop)
    (p : TaskProgram Outcome) (m : E.Moment) : Prop :=
  E.Ensures faulty (fun _ m' => i.Underway o w m'.world)
    (fun r m' => i.Updated o w faulty r m'.world) p m

/-- A look in the course of an update. -/
theorem ensuresUpdate_look {c : Call} {v : c.Answer} {f : c.Answer → TaskProgram Outcome}
    (hlook : E.Looks c w₁ v) (hw : m.world = w₁) (h : i.Underway o w w₁)
    (hnext : ∀ m' : E.Moment, m'.world = w₁ → EnsuresUpdate E o i w faulty (f v) m') :
    EnsuresUpdate E o i w faulty ((Program.perform c).bind f) m :=
  Partners.ensures_look hlook hw (hw ▸ h) (fun m' hm' _ => hnext m' hm')
    fun hf e _ hm' _ => .of_fault hf e (hm' ▸ h)

theorem finish_ensures (hw : m.world = w₁) (hready : i.Ready o w x n w₁) :
    EnsuresUpdate E o i w faulty (finish o i (i.existing w) x n) m := by
  unfold finish
  refine Program.Ensures.bind (publish_ensures hw hready) (fun _ m' h => ?_) fun e m' h => ?_
  · obtain ⟨hc, hv⟩ := h.published () rfl
    refine ensuresUpdate_look (Partners.looks_hear _ m'.world) rfl h.underway fun m₂ hm₂ => ?_
    show EnsuresUpdate E o i w faulty (.ofExcept (Outcome.make .successful n)) m₂
    cases n with
    | ofNat k =>
      refine ⟨hm₂ ▸ h.underway, fun out _ _ => ?_, fun out hr hout => ?_, fun _ _ => ⟨_, rfl, rfl⟩⟩
      · rw [hm₂]
        exact ⟨x, _, hready.wants, hready.tolerated, hc, Int.natCast_nonneg k, hv⟩
      · cases hr
        cases hout
    | negSucc k =>
      refine .of_stuck _ (hm₂ ▸ h.underway) fun files v hcompletes => ?_
      obtain ⟨y, n', hy, -, hc', hn, -⟩ := hcompletes
      obtain rfl := hready.wants.unique hy
      obtain ⟨-, rfl⟩ := hc.unique hc'
      exact absurd hn (by simp)
  · refine ⟨h.underway, (fun _ hr => nomatch hr), (fun _ hr => nomatch hr), ?_⟩
    rintro hclean ⟨files, v, y, n', hy, -, -, -, hv⟩
    obtain rfl := hready.wants.unique hy
    obtain ⟨u, hu⟩ := h.succeeds hclean ⟨v, hv⟩
    cases hu

/-- The data step of an update leaves the update in its first stage. -/
theorem underway_of_attempted (howns : i.ownsData = true) (hx : i.Wants o w x)
    (h : Attempted E o.dataOptions i.spec (Maintained.body i.record).location
      (Maintained.body x).location w w') : i.Underway o w w' := by
  refine .early h.source h.destination (h.files.imp_right fun hf y files n hy hc => ?_)
  obtain rfl := hx.unique hy
  rw [Carried, if_pos howns] at hc
  exact hf files n hc

theorem carry_ensures (hw : m.world = w) (hx : i.Wants o w x) (ht : i.Tolerated o w) :
    EnsuresUpdate E o i w faulty (carry o i (i.existing w) x) m := by
  unfold carry
  cases howns : i.ownsData with
  | false =>
    have hc : i.Carried o w x w.files 0 := by simp [Carried, howns]
    exact finish_ensures hw ⟨rfl, rfl, hx, ht, hc⟩
  | true =>
    have hcarried : ∀ files n, i.Carried o w x files n ↔ Carries E.carrier o.dataOptions i.spec
        w.files (Maintained.body i.record).location (Maintained.body x).location files n := by
      intro files n
      rw [Carried, if_pos howns]
    have hcompletes : ∀ files v, i.Completes o w files v → ∃ n, i.Carried o w x files n := by
      rintro files v ⟨y, n, hy, -, hc, -⟩
      obtain rfl := hx.unique hy
      exact ⟨n, hc⟩
    have hdata : EnsuresData E o.dataOptions i.spec (Maintained.body i.record).location
        (Maintained.body x).location faulty w _ m := reconcileData_ensures hw
    refine Program.Ensures.bind (hdata.mono (fun _ _ h => underway_of_attempted howns hx h)
      fun _ _ h => h) (fun d m' h => ?_) fun e m' h => ?_
    · have hunderway := underway_of_attempted howns hx h.attempted
      cases hout : d.outcome with
      | none =>
        have hc := (hcarried _ _).2 (h.carries d rfl hout)
        exact finish_ensures rfl ⟨h.attempted.source, h.attempted.destination, hx, ht, hc⟩
      | some out =>
        refine .of_unsuccessful hunderway (h.unsuccessful d out rfl hout) h.attempted.destination ?_
        by_cases hf : faulty
        · exact .inl hf
        · refine .inr fun files v hc => ?_
          obtain ⟨n, hc⟩ := hcompletes files v hc
          have hd := h.completes hf files n ((hcarried _ _).1 hc)
          cases hd
          cases hout
    · refine ⟨underway_of_attempted howns hx h.attempted, (fun _ hr => nomatch hr),
        (fun _ hr => nomatch hr), ?_⟩
      rintro hclean ⟨files, v, hc⟩
      obtain ⟨n, hc⟩ := hcompletes files v hc
      have hd := h.completes hclean files n ((hcarried _ _).1 hc)
      cases hd

/-- **An update** is in one of its stages at every point; it succeeds only by completing, without
faults whenever it can, and leaves the destination alone if it ends without success. -/
theorem update_ensures (hw : m.world = w) :
    EnsuresUpdate E o i w faulty (update o i.spec i.ownsData i.record (i.existing w)) m := by
  rw [update_eq]
  have hearly : i.Underway o w m.world := hw ▸ .refl
  by_cases hwants : ∃ x, i.Wants o w x
  · obtain ⟨x, hx⟩ := hwants
    rw [expect_of_wants hx]
    simp only [Program.done_bind]
    cases hexisting : i.existing w with
    | none =>
      have ht : i.Tolerated o w := fun e he => by
        rw [hexisting] at he
        cases he
      have hcarry : EnsuresUpdate E o i w faulty (carry o i (i.existing w) x) m :=
        carry_ensures hw hx ht
      rwa [hexisting] at hcarry
    | some e =>
      refine ensuresUpdate_look (Partners.looks_hear _ w) hw .refl fun m₁ hm₁ => ?_
      refine checkConflict_ensures (fun policy warning hpolicy hcheck => ?_) fun hfail e' => ?_
      · have ht : i.Tolerated o w := fun e' he => by
          rw [hexisting] at he
          cases he
          exact ⟨policy, warning, hpolicy, hcheck⟩
        have hcarry : EnsuresUpdate E o i w faulty (carry o i (i.existing w) x) m₁ :=
          carry_ensures hm₁ hx ht
        rwa [hexisting] at hcarry
      · refine .of_stuck e' (hm₁ ▸ .refl) fun files v ⟨_, _, _, ht, _⟩ => ?_
        obtain ⟨policy, warning, hpolicy, hcheck⟩ := ht e hexisting
        exact hfail policy warning hpolicy hcheck
  · have hnot : ∀ x, ¬ i.Wants o w x := fun x hx => hwants ⟨x, hx⟩
    obtain ⟨e, he⟩ := expect_of_not_wants hnot
    rw [he]
    exact .of_stuck e hearly fun files v ⟨x, _, hx, _⟩ => hnot x hx

end Item

end CatalogReplication.Task
