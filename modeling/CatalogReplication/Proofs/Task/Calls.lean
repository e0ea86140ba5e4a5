import CatalogReplication.Proofs.Task.Conduct

/-!
# The calls of a task

A task looks, and makes the calls of the update of its object; a partition task may make those of
the update of its table before (`ReplicationTask.Makes`). It finishes as one of these updates does,
or without an object to update (`ReplicationTask.Finishes`).
-/

namespace CatalogReplication.Task

/-- The update of a partition may begin in a world, in a task that began in another one. -/
structure Cascade.Proceeds {E : Partners} (o : Setup) (c : Cascade) (w w₁ : E.World) : Prop where
  source : w₁.source = w.source
  partition : ∀ k, w₁.view.record? (.partition k) = w.view.record? (.partition k)
  table : c.reason? w = none ∨ c.tableItem.Tolerated o w

end CatalogReplication.Task

namespace CatalogReplication.ReplicationTask

open CatalogReplication.Task
open Catalog (View Site)
open TaskProgram

section

variable {E : Partners} (o : Setup) (w : E.World)

/-- The calls that a task makes which began in a world; only a task for a partition looks that
partition up at the destination. -/
inductive Makes (m : E.Moment) : ReplicationTask → Call → Prop where
  | look {t : ReplicationTask} {c : Call} (h : c.isLook = true)
      (hown : ∀ k, c = .destination (.getPartition k) → t = partition k) : Makes m t c
  | table {spec : Spec} {hint : Value} {t : TableRecord} {c : Call}
      (ht : w.sourceView.table spec.tableSpec = some t)
      (h : (Item.ofTable spec t).Makes o w m c) : Makes m (table spec hint) c
  | cascade {c : Cascade} {reason : String} {call : Call} (hfound : c.Found w)
      (hreason : c.reason? w = some reason) (h : c.tableItem.Makes o w m call) :
      Makes m (partition c.spec) call
  | partition {c : Cascade} {w₁ : E.World} {call : Call} (hfound : c.Found w)
      (hb : c.Proceeds o w w₁) (h : c.partitionItem.Makes o w₁ m call) :
      Makes m (partition c.spec) call

/-- A partition was not looked up at the destination yet. -/
def Unseen (k : Spec) (m : E.Moment) : Prop := Call.destination (.getPartition k) ∉ m.log

/-- How a task ends which began in a world. -/
inductive Finishes (may : Call → Failure → Prop) (r : Except Failure Outcome) (m : E.Moment) :
    ReplicationTask → Prop where
  | fault {t : ReplicationTask} {c : Call} {e : Failure} (hc : c.isLook = true) (h : may c e)
      (hr : r = .error e) : Finishes may r m t
  | missing {t : ReplicationTask} {out : Outcome} (h : t.IsMissing w) (hr : r = .ok out) :
      Finishes may r m t
  | table {spec : Spec} {hint : Value} {t : TableRecord}
      (ht : w.sourceView.table spec.tableSpec = some t)
      (h : (Item.ofTable spec t).Finishes o w may r m) : Finishes may r m (table spec hint)
  | cascade {c : Cascade} {reason : String} {e : Failure} (hfound : c.Found w)
      (hreason : c.reason? w = some reason) (hunseen : Unseen c.spec m)
      (h : c.tableItem.Finishes o w may r m) (hr : r = .error e) :
      Finishes may r m (partition c.spec)
  | cascadeFailed {c : Cascade} {reason : String} (hfound : c.Found w)
      (hreason : c.reason? w = some reason) (hunseen : Unseen c.spec m)
      (ht : c.tableItem.Tolerated o w) (hr : r = .ok .failed) : Finishes may r m (partition c.spec)
  | partition {c : Cascade} {w₁ : E.World} (hfound : c.Found w) (hb : c.Proceeds o w w₁)
      (h : c.partitionItem.Finishes o w₁ may r m) : Finishes may r m (partition c.spec)

/-- The conditions under which a task is looked at: at every call and at the end. -/
abbrev EnsuresFinishes (E : Partners) (o : Setup) (t : ReplicationTask) (w : E.World)
    (may : Call → Failure → Prop) (p : TaskProgram Outcome) (m : E.Moment) : Prop :=
  E.EnsuresFreely may (fun c m' => t.Makes o w m' c) (fun r m' => t.Finishes o w may r m') p m

end

variable {E : Partners} {o : Setup} {w : E.World} {t : ReplicationTask} {m m' : E.Moment}
  {may : Call → Failure → Prop}

theorem Unseen.cons {k : Spec} {c : Call} (h : Unseen k m) (hlog : m'.log = c :: m.log)
    (hc : c ≠ .destination (.getPartition k)) : Unseen k m' := by
  rw [Unseen, hlog]
  intro hmem
  rcases List.mem_cons.1 hmem with hhere | hearlier
  · exact hc hhere.symm
  · exact h hearlier

/-- A task only looks at the source. -/
theorem Makes.looks {r : Catalog.Request} (h : t.Makes o w m (.source r)) : r.isLookup = true := by
  cases h with
  | look h _ => exact h
  | table _ h => exact h.looks
  | cascade _ _ h => exact h.looks
  | partition _ _ h => exact h.looks

/-- A look in the course of a task. -/
theorem finishes_look {w₁ : E.World} {c : Call} {v : c.Answer} {f : c.Answer → TaskProgram Outcome}
    (hlook : E.Looks c w₁ v) (hc : c.isLook = true)
    (hown : ∀ k, c = .destination (.getPartition k) → t = partition k) (hw : m.world = w₁)
    (hnext : ∀ m', m'.world = w₁ → m'.log = c :: m.log → EnsuresFinishes E o t w may (f v) m') :
    EnsuresFinishes E o t w may ((Program.perform c).bind f) m := by
  refine Partners.freely_look hlook ?_ hw (.look hc hown) hnext
    fun e m' _ _ hmay => .fault hc hmay rfl
  rintro r rfl
  cases hc

theorem sourceMissing_finishes {spec : Spec} {object : String} (h : t.IsMissing w)
    (hw : m.world = w) : EnsuresFinishes E o t w may (sourceMissing spec object) m :=
  finishes_look (Partners.looks_hear _ w) rfl (fun _ hk => nomatch hk) hw
    fun _ _ _ => .missing h rfl

/-! ### Tables -/

/-- **A table task** makes the calls of the update of its table. -/
theorem table_finishes {spec : Spec} {hint : Value} (hw : m.world = w) :
    EnsuresFinishes E o (table spec hint) w may (Task.table o spec) m := by
  refine finishes_look (looks_sourceTable w spec) rfl (fun _ hk => nomatch hk) hw fun m₁ hm₁ _ => ?_
  cases ht : w.sourceView.table spec.tableSpec with
  | none => exact sourceMissing_finishes ht hm₁
  | some t =>
    refine finishes_look (looks_destinationTable w spec) rfl (fun _ hk => nomatch hk) hm₁
      fun m₂ hm₂ hlog => ?_
    have hlooked : lookedUp? m₂.log = some (Sited.site TableRecord spec) := by
      rw [hlog]
      rfl
    have hupdate : Item.EnsuresFinishes E o (.ofTable spec t) w may _ m₂ :=
      Item.update_finishes hm₂ hlooked
    exact hupdate.mono (fun _ _ h => .table ht h) fun _ _ h => .table ht h

theorem Makes.of_table {spec : Spec} {hint : Value} {t : TableRecord} {c : Call}
    (ht : w.sourceView.table spec.tableSpec = some t)
    (h : (ReplicationTask.table spec hint).Makes o w m c) :
    (c.isLook = true ∧ ∀ k, c ≠ .destination (.getPartition k)) ∨
      (Item.ofTable spec t).Makes o w m c := by
  cases h with
  | look h hown => exact .inl ⟨h, fun k hk => nomatch hown k hk⟩
  | table ht' h =>
    obtain rfl := Option.some.inj (ht.symm.trans ht')
    exact .inr h

theorem Finishes.of_table {spec : Spec} {hint : Value} {t : TableRecord}
    {r : Except Failure Outcome} (ht : w.sourceView.table spec.tableSpec = some t)
    (h : (ReplicationTask.table spec hint).Finishes o w may r m) :
    (∃ c e, c.isLook = true ∧ may c e ∧ r = .error e) ∨
      (Item.ofTable spec t).Finishes o w may r m := by
  cases h with
  | fault hc h hr => exact .inl ⟨_, _, hc, h, hr⟩
  | missing h hr =>
    rw [IsMissing, ht] at h
    cases h
  | table ht' h =>
    obtain rfl := Option.some.inj (ht.symm.trans ht')
    exact .inr h

/-! ### Partitions -/

section

variable {c : Cascade}

/-- The update of the partition, from a world in which it may begin. -/
theorem updatePartition_finishes (hfound : c.Found w) (hb : c.Proceeds o w m.world) :
    EnsuresFinishes E o (partition c.spec) w may (updatePartition o c.spec c.partition) m := by
  refine finishes_look (looks_destinationPartition m.world c.spec) rfl (fun k hk => ?_) rfl
    fun m₁ hm₁ hlog => ?_
  · cases hk
    rfl
  · have hlooked : lookedUp? m₁.log = some (Sited.site PartitionRecord c.spec) := by
      rw [hlog]
      rfl
    have hupdate : Item.EnsuresFinishes E o c.partitionItem m.world may _ m₁ :=
      Item.update_finishes hm₁ hlooked
    exact hupdate.mono (fun _ _ h => .partition hfound hb h) fun _ _ h => .partition hfound hb h

/-- A call of a table task leaves the partitions alone, and doesn't look them up. -/
theorem partition_of_makes {spec k : Spec} {hint : Value} {t : TableRecord} {call : Call}
    {a : Except Failure call.Answer} (ht : w.sourceView.table spec.tableSpec = some t)
    (h : (table spec hint).Makes o w m call) (ha : E.AnswersFreely may call m a m') :
    m'.world.view.record? (.partition k) = m.world.view.record? (.partition k) ∧
      call ≠ .destination (.getPartition k) := by
  rcases h.of_table ht with ⟨hlook, hne⟩ | hmakes
  · refine ⟨Partners.record?_of_answers ha ?_, hne k⟩
    rw [Call.site?_of_isLook hlook]
    exact nofun
  · refine ⟨Partners.record?_of_answers ha fun hs => ?_, ?_⟩
    · rcases hmakes.site (isIdentified_ofTable ht) hs with hsite | ⟨x, d, -, -, hsite⟩
      · cases hsite
      · cases hsite
    · rintro rfl
      cases hmakes.isLookup_eq_false

/-- A table task, while the partitions stay as they were and one of them isn't looked up. -/
theorem table_finishes_unseen (may : Call → Failure → Prop) {spec k : Spec} {t : TableRecord}
    (ht : w.sourceView.table spec.tableSpec = some t) (hw : m.world = w) (hunseen : Unseen k m) :
    E.EnsuresFreely may
      (fun c m' => (c.isLook = true ∧ ∀ k, c ≠ .destination (.getPartition k)) ∨
        (Item.ofTable spec t).Makes o w m' c)
      (fun r m' => (table spec .null).Finishes o w may r m' ∧ Unseen k m' ∧
        ∀ k, m'.world.view.record? (.partition k) = w.view.record? (.partition k))
      (Task.table o spec) m := by
  have htable : EnsuresFinishes E o (table spec .null) w may (Task.table o spec) m :=
    table_finishes hw
  -- No call of a table task looks a partition up or writes one.
  have hkept := htable.invariant (I := fun m' => Unseen k m' ∧
      ∀ k, m'.world.view.record? (.partition k) = w.view.record? (.partition k)) (fun _ _ h => h)
    (fun call m₁ a m₂ hmakes ha h => by
      refine ⟨h.1.cons (Partners.log_of_answersFreely ha) (partition_of_makes ht hmakes ha).2, ?_⟩
      exact fun k => (partition_of_makes ht hmakes ha).1.trans (h.2 k))
    ⟨hunseen, fun _ => by rw [hw]⟩
  exact hkept.mono (fun c m' h => h.1.of_table ht) fun _ _ h => h

/-- A partition task from where its table is tried. -/
theorem afterTable_finishes {reason : String} (hfound : c.Found w) (hw : m.world = w)
    (hreason : c.reason? w = some reason) (hunseen : Unseen c.spec m) :
    EnsuresFinishes E o (partition c.spec) w may
      ((Task.table o c.spec.tableSpec).bind (c.afterTable o)) m := by
  have ht : w.sourceView.table c.spec.tableSpec.tableSpec = some c.table := hfound.table
  have htable := table_finishes_unseen (o := o) may ht hw hunseen
  refine Program.Ensures.bind (htable.mono (fun call m' h => ?_) fun _ _ h => h)
    (fun out m' h => ?_) fun e m' h => ?_
  · rcases h with ⟨hlook, hne⟩ | hmakes
    · exact .look hlook fun k hk => absurd hk (hne k)
    · exact .cascade hfound hreason hmakes
  · obtain ⟨hfinishes, hunseen', hpartition⟩ := h
    rcases hfinishes.of_table ht with ⟨_, _, _, _, hr⟩ | hitem
    · cases hr
    -- A table that isn't tolerated is refused, so one whose task has an outcome is.
    have htolerated : c.tableItem.Tolerated o w := by
      by_contra hnot
      obtain ⟨-, e, hr, -⟩ := hitem.refused hnot
      cases hr
    unfold Cascade.afterTable
    cases hout : out.isSuccessful with
    | true => exact updatePartition_finishes hfound ⟨hitem.source, hpartition, .inr htolerated⟩
    | false =>
      exact finishes_look (Partners.looks_hear _ m'.world) rfl (fun _ hk => nomatch hk) rfl
        fun m₂ _ hlog =>
          .cascadeFailed hfound hreason (hunseen'.cons hlog nofun) htolerated rfl
  · obtain ⟨hfinishes, hunseen', -⟩ := h
    rcases hfinishes.of_table ht with ⟨c', e', hc, hmay, hr⟩ | hitem
    · cases hr
      exact .fault hc hmay rfl
    · exact .cascade hfound hreason hunseen' hitem rfl

end

/-- **A partition task** makes the calls of the update of its partition, perhaps after those of the
update of its table. -/
theorem partition_finishes {spec : Spec} (hw : m.world = w) (hunseen : Unseen spec m) :
    EnsuresFinishes E o (partition spec) w may (Task.partition o spec) m := by
  refine finishes_look (looks_sourcePartition w spec) rfl (fun _ hk => nomatch hk) hw
    fun m₁ hm₁ hlog₁ => ?_
  cases hp : w.sourceView.partition spec with
  | none => exact sourceMissing_finishes (.inl hp) hm₁
  | some p =>
    refine finishes_look (looks_sourceTable w spec.tableSpec) rfl (fun _ hk => nomatch hk) hm₁
      fun m₂ hm₂ hlog₂ => ?_
    refine finishes_look (looks_destinationTable w spec.tableSpec) rfl (fun _ hk => nomatch hk) hm₂
      fun m₃ hm₃ hlog₃ => ?_
    have hunseen₃ : Unseen spec m₃ :=
      ((hunseen.cons hlog₁ nofun).cons hlog₂ nofun).cons hlog₃ nofun
    cases ht : w.sourceView.table spec.tableSpec.tableSpec with
    | none => exact sourceMissing_finishes (.inr ht) hm₃
    | some t =>
      have hfound : Cascade.Found { spec, table := t, partition := p } w := ⟨hp, ht⟩
      cases hreason : cascadeReason? t (w.view.table spec.tableSpec.tableSpec) with
      | none =>
        have hb : Cascade.Proceeds o { spec, table := t, partition := p } w m₃.world := by
          rw [hm₃]
          exact ⟨rfl, fun _ => rfl, .inl hreason⟩
        simp only [hreason]
        exact updatePartition_finishes hfound hb
      | some reason =>
        simp only [hreason]
        refine finishes_look (Partners.looks_hear _ w) rfl (fun _ hk => nomatch hk) hm₃
          fun m₄ hm₄ hlog₄ => ?_
        exact afterTable_finishes hfound hm₄ hreason (hunseen₃.cons hlog₄ nofun)

theorem Makes.of_partition {c : Cascade} {call : Call} (hfound : c.Found w)
    (h : (ReplicationTask.partition c.spec).Makes o w m call) :
    call.isLook = true ∨
      (∃ reason, c.reason? w = some reason ∧ c.tableItem.Makes o w m call) ∨
      ∃ w₁, c.Proceeds o w w₁ ∧ c.partitionItem.Makes o w₁ m call := by
  generalize hspec : c.spec = spec at h
  cases h with
  | look h _ => exact .inl h
  | cascade hfound' hreason h =>
    obtain rfl := hfound.unique hfound' hspec
    exact .inr (.inl ⟨_, hreason, h⟩)
  | partition hfound' hb h =>
    obtain rfl := hfound.unique hfound' hspec
    exact .inr (.inr ⟨_, hb, h⟩)

/-- How a task for a partition that is there ends, unless a look fails. -/
theorem Finishes.of_partition {c : Cascade} {r : Except Failure Outcome} (hfound : c.Found w)
    (h : (ReplicationTask.partition c.spec).Finishes o w may r m) :
    (∃ call e, call.isLook = true ∧ may call e ∧ r = .error e) ∨
      (Unseen c.spec m ∧ ∃ reason, c.reason? w = some reason ∧
        (c.tableItem.Finishes o w may r m ∨ c.tableItem.Tolerated o w)) ∨
      ∃ w₁, c.Proceeds o w w₁ ∧ c.partitionItem.Finishes o w₁ may r m := by
  generalize hspec : c.spec = spec at h
  cases h with
  | fault hc h hr => exact .inl ⟨_, _, hc, h, hr⟩
  | missing h _ =>
    rw [IsMissing, ← hspec, hfound.partition, hfound.table] at h
    rcases h with h | h <;> cases h
  | cascade hfound' hreason hunseen h _ =>
    obtain rfl := hfound.unique hfound' hspec
    exact .inr (.inl ⟨hunseen, _, hreason, .inl h⟩)
  | cascadeFailed hfound' hreason hunseen ht _ =>
    obtain rfl := hfound.unique hfound' hspec
    exact .inr (.inl ⟨hunseen, _, hreason, .inr ht⟩)
  | partition hfound' hb h =>
    obtain rfl := hfound.unique hfound' hspec
    exact .inr (.inr ⟨_, hb, h⟩)

/-- **A task** makes only calls of its kinds, and ends as one of its updates does. -/
theorem program_finishes (hw : m.world = w) (hlog : m.log = []) :
    EnsuresFinishes E o t w may (t.program o) m := by
  cases t with
  | table spec hint => exact table_finishes hw
  | partition spec =>
    refine partition_finishes hw ?_
    rw [Unseen, hlog]
    exact nofun

end CatalogReplication.ReplicationTask
