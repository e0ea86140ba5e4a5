import CatalogReplication.Proofs.Task.Retry

/-!
# Running again

After a run that succeeded nothing is left to do (`ReplicationTask.upToDate_of_completes`). A run
where nothing is left to do only looks, copies nothing, reports that the metadata is unchanged, and
leaves the world as it is (`ReplicationTask.rested_of_upToDate`). So one run is as good as many:
`ReplicationTask.idempotent`.
-/

namespace CatalogReplication

open CatalogReplication.Task
open TaskProgram

namespace Task

/-! ### Runs that only look -/

section

variable {E : Partners} {w : E.World}

/-- A moment of a run that only looked so far. -/
structure Idle (w : E.World) (m : E.Moment) : Prop where
  world : m.world = w
  quiet : ∀ c ∈ m.log, c.isQuiet = true

theorem Idle.cons {c : Call} {m m' : E.Moment} (h : Idle w m) (hc : c.isQuiet = true)
    (hw : m'.world = w) (hlog : m'.log = c :: m.log) : Idle w m' := by
  refine ⟨hw, fun c' hc' => ?_⟩
  rw [hlog, List.mem_cons] at hc'
  rcases hc' with rfl | hc'
  · exact hc
  · exact h.quiet c' hc'

/-- What a procedure without faults ends with. -/
abbrev Ends {α : Type} (after : Except Failure α → E.Moment → Prop) (p : TaskProgram α)
    (m : E.Moment) : Prop :=
  E.Ensures False (fun _ _ => True) after p m

variable {α : Type} {after : Except Failure α → E.Moment → Prop} {m : E.Moment} {spec : Spec}

theorem ends_look {c : Call} {v : c.Answer} {f : c.Answer → TaskProgram α}
    (hlook : E.Looks c w v) (hc : c.isQuiet = true) (hm : Idle w m)
    (hnext : ∀ m' : E.Moment, Idle w m' → m'.log = c :: m.log → Ends after (f v) m') :
    Ends after ((Program.perform c).bind f) m :=
  Partners.ensures_look hlook hm.world trivial
    (fun m' hw hlog => hnext m' (hm.cons hc hw hlog) hlog) fun hf => hf.elim

theorem ends_emit {kind : EventKind} {details : List (String × Value)} {f : Unit → TaskProgram α}
    (hkind : (kind != .tableCascade) = true) (hm : Idle w m)
    (hnext : ∀ m' : E.Moment, Idle w m' →
      m'.log = .hear { kind, spec, details := .map details } :: m.log → Ends after (f ()) m') :
    Ends after ((emit spec kind details).bind f) m :=
  ends_look (Partners.looks_hear _ w) hkind hm hnext

/-! ### The data step -/

/-- A data step that finds nothing to do. -/
abbrev EndsSettled (w : E.World) (p : TaskProgram DataResult) (m : E.Moment) : Prop :=
  Ends (fun r m' => r = .ok {} ∧ Idle w m') p m

variable {o : DataOptions} {a b : String}

theorem copyData_settled (hm : Idle w m) (h : E.carrier.agrees a b w.files = true) :
    EndsSettled w (copyData o spec a b) m := by
  refine ends_look (Partners.looks_equal a b w) rfl hm fun m₁ hm₁ _ => ?_
  rw [h]
  exact ends_emit rfl hm₁ fun m₂ hm₂ _ => ⟨rfl, hm₂⟩

theorem reconcileLocations_settled (hm : Idle w m) (hu : Unstaged E.carrier o a w.files)
    (h : E.carrier.agrees a b w.files = true) :
    EndsSettled w (reconcileLocations o spec a b) m := by
  unfold reconcileLocations
  cases hroot : o.stagingRoot.isNull with
  | true => exact copyData_settled hm h
  | false =>
    rcases hu with hnull | ⟨staged, hpath, hdiffer⟩
    · rw [hroot] at hnull
      cases hnull
    · rw [hpath]
      refine ends_look (Partners.looks_equal staged a w) rfl hm fun m₁ hm₁ _ => ?_
      rw [hdiffer]
      exact ends_emit rfl hm₁ fun m₂ hm₂ _ => copyData_settled hm₂ h

/-- Nothing is done about settled data. -/
theorem reconcileData_settled {a b : Option String} (hm : Idle w m)
    (hs : Settled E.carrier o w.files a b) : EndsSettled w (reconcileData o spec a b) m := by
  cases hs with
  | nowhere h =>
    rcases h with rfl | rfl
    · exact ⟨rfl, hm⟩
    · cases a <;> exact ⟨rfl, hm⟩
  | shared =>
    unfold reconcileData
    simp only [if_true]
    exact ends_emit rfl hm fun m₁ hm₁ _ => ⟨rfl, hm₁⟩
  | @agreed a b hu h =>
    unfold reconcileData
    by_cases hab : a = b
    · simp only [if_pos hab]
      exact ends_emit rfl hm fun m₁ hm₁ _ => ⟨rfl, hm₁⟩
    · simp only [if_neg hab]
      exact reconcileLocations_settled hm hu h

end

/-! ### Updates -/

/-- How a run ends that found nothing to do: it succeeds, copied nothing, only looked, left the
world as it was, and reported of a spec that the metadata is unchanged. -/
structure Rested {E : Partners} (spec : Spec) (w : E.World) (r : Except Failure Outcome)
    (m : E.Moment) : Prop where
  result : r = .ok { status := .successful, bytes := 0 }
  world : m.world = w
  quiet : ∀ c ∈ m.log, c.isQuiet = true
  unchanged : ∃ details, Call.hear { kind := .metadataUnchanged, spec, details } ∈ m.log

namespace Item

variable {ρ : Type} [Catalogued ρ] [DecidableEq ρ] {E : Partners} {o : Setup} {i : Item ρ}
  {w : E.World} {m : E.Moment} {x : ρ}

theorem finish_rested (hm : Idle w m) (hkeep : Action.decide (i.existing w) x = .keep) :
    Ends (Rested i.spec w) (finish o i (i.existing w) x 0) m := by
  unfold finish publish
  rw [hkeep]
  refine ends_emit rfl hm fun m₁ hm₁ hlog₁ => ends_emit rfl hm₁ fun m₂ hm₂ hlog₂ => ?_
  refine ⟨rfl, hm₂.world, hm₂.quiet, .map [], ?_⟩
  rw [hlog₂, hlog₁]
  exact List.mem_cons_of_mem _ (List.mem_cons_self ..)

theorem carry_rested (hm : Idle w m) (hkeep : Action.decide (i.existing w) x = .keep)
    (hs : i.ownsData = true → Settled E.carrier o.dataOptions w.files
      (Maintained.body i.record).location (Maintained.body x).location) :
    Ends (Rested i.spec w) (carry o i (i.existing w) x) m := by
  unfold carry
  cases howns : i.ownsData with
  | false => exact finish_rested hm hkeep
  | true =>
    have hdata : EndsSettled w (reconcileData o.dataOptions i.spec
        (Maintained.body i.record).location (Maintained.body x).location) m :=
      reconcileData_settled hm (hs howns)
    refine Program.Ensures.bind hdata (fun d m₁ h => ?_) fun e m₁ h => nomatch h.1
    obtain ⟨hd, hm₁⟩ := h
    cases hd
    exact finish_rested hm₁ hkeep

/-- The update of an item that is up to date. -/
theorem update_rested (hm : Idle w m) (h : i.UpToDate o w) :
    Ends (Rested i.spec w) (update o i.spec i.ownsData i.record (i.existing w)) m := by
  obtain ⟨x, hx, ht, hkeep, hs⟩ := h
  obtain ⟨stored, hexisting, -⟩ := Action.decide_eq_keep_iff.1 hkeep
  obtain ⟨policy, warning, hpolicy, hcheck⟩ := ht stored hexisting
  rw [update_eq, expect_of_wants hx, hexisting]
  refine ends_emit rfl hm fun m₁ hm₁ _ => ?_
  refine checkConflict_ensures (fun policy' warning' _ _ => ?_) fun hfail _ => ?_
  · rw [← hexisting]
    exact carry_rested hm₁ hkeep hs
  · exact absurd hcheck (hfail policy warning hpolicy)

end Item

end Task

/-! ### Tasks -/

namespace ReplicationTask

variable {E : Partners} {o : Setup} {t : ReplicationTask} {w w' : E.World} {m : E.Moment}

/-- Nothing is left to do for a task. -/
inductive UpToDate (o : Setup) (w : E.World) : ReplicationTask → Prop where
  | table {spec : Spec} {hint : Value} {t : TableRecord}
      (ht : w.sourceView.table spec.tableSpec = some t) (h : (Item.ofTable spec t).UpToDate o w) :
      UpToDate o w (table spec hint)
  | partition {c : Cascade} (hfound : c.Found w) (hreason : c.reason? w = none)
      (h : c.partitionItem.UpToDate o w) : UpToDate o w (partition c.spec)

/-- **A task that completed is up to date.** -/
theorem upToDate_of_completes (ho : o.IsProper) (hi : t.IsIdentified w) (ha : t.DataApart o w)
    (hs : w'.source = w.source) (h : t.Completes o w w'.files w'.view) : t.UpToDate o w' := by
  have hsource : w'.sourceView = w.sourceView := congrArg E.source.view hs
  cases h with
  | table ht hc =>
    obtain ⟨x, n, hx, -, hcarried, -, hv⟩ := hc
    exact .table (by rwa [hsource])
      (Item.upToDate_of_published ho (isIdentified_ofTable ht) (ha _ ht) hx hcarried hv)
  | @partition c hfound hc =>
    obtain ⟨w₁, hb, x, n, hx, -, hcarried, -, hv⟩ := hc
    have hreason : c.reason? w' = none := by
      rw [Cascade.reason?, table_of_published hv]
      exact hb.reason?_eq_none hfound
    exact .partition (hfound.congr hsource) hreason (Item.upToDate_of_published ho
      (hi _ hfound.partition) (ha _ hfound.partition) hx hcarried hv)

/-- **A run where nothing is left to do** only looks. -/
theorem rested_of_upToDate (hm : Idle w m) (h : t.UpToDate o w) :
    Ends (Rested t.spec w) (t.program o) m := by
  cases h with
  | @table spec hint t ht h =>
    refine ends_look (looks_sourceTable w spec) rfl hm fun m₁ hm₁ _ => ?_
    rw [ht]
    refine ends_look (looks_destinationTable w spec) rfl hm₁ fun m₂ hm₂ _ => ?_
    exact Item.update_rested hm₂ h
  | @partition c hfound hreason h =>
    refine ends_look (looks_sourcePartition w c.spec) rfl hm fun m₁ hm₁ _ => ?_
    rw [hfound.partition]
    refine ends_look (looks_sourceTable w c.spec.tableSpec) rfl hm₁ fun m₂ hm₂ _ => ?_
    refine ends_look (looks_destinationTable w c.spec.tableSpec) rfl hm₂ fun m₃ hm₃ _ => ?_
    have ht : w.sourceView.table c.spec.tableSpec.tableSpec = some c.table := hfound.table
    have hr : cascadeReason? c.table (w.view.table c.spec.tableSpec.tableSpec) = none := hreason
    rw [ht]
    simp only [hr]
    refine ends_look (looks_destinationPartition w c.spec) rfl hm₃ fun m₄ hm₄ _ => ?_
    exact Item.update_rested hm₄ h

/-- The world that runs of a task leave, one after the other, each with its own clock readings. -/
def runs (E : Partners) (o : Setup) (t : ReplicationTask) (clocks : List (Nat → Int))
    (w : E.World) : E.World :=
  clocks.foldl (fun w clock => (E.run (t.program o) clock w).2.world) w

theorem runs_of_upToDate (h : t.UpToDate o w) (clocks : List (Nat → Int)) :
    t.runs E o clocks w = w := by
  induction clocks with
  | nil => rfl
  | cons clock clocks ih =>
    have hend : Rested t.spec w (E.run (t.program o) clock w).1 (E.run (t.program o) clock w).2 :=
      Partners.run_of_ensures (rested_of_upToDate ⟨rfl, by simp⟩ h)
    show t.runs E o clocks (E.run (t.program o) clock w).2.world = w
    rw [hend.world]
    exact ih

/-- **One run is as good as many**: after a run that succeeded, and any number of runs after it, the
world is as the first one left it, and another run succeeds with no bytes copied, only looks,
doesn't begin with the table, and reports that the metadata is unchanged. -/
theorem idempotent (E : Partners) (o : Setup) (t : ReplicationTask) (clock : Nat → Int)
    (clocks : List (Nat → Int)) (clock' : Nat → Int) {w : E.World} {out : Outcome}
    (ho : o.IsProper) (hi : t.IsIdentified w) (ha : t.DataApart o w)
    (hrun : (E.run (t.program o) clock w).1 = .ok out) (hout : out.isSuccessful = true) :
    t.runs E o (clock :: clocks) w = (E.run (t.program o) clock w).2.world ∧
      Rested t.spec (E.run (t.program o) clock w).2.world
        (E.run (t.program o) clock' (t.runs E o (clock :: clocks) w)).1
        (E.run (t.program o) clock' (t.runs E o (clock :: clocks) w)).2 := by
  have hend := run_ended E o t clock w
  have hup := upToDate_of_completes ho hi ha hend.underway.source (hend.completes out hrun hout)
  have hruns : t.runs E o (clock :: clocks) w = (E.run (t.program o) clock w).2.world :=
    runs_of_upToDate hup clocks
  refine ⟨hruns, ?_⟩
  rw [hruns]
  exact Partners.run_of_ensures (rested_of_upToDate ⟨rfl, by simp⟩ hup)

theorem idempotent_sample :
    let w := (Sample.run 7 Sample.world).2.world
    let w' := Sample.task.runs Sample.partners Sample.setup [fun _ => 7, fun _ => 8] Sample.world
    (Sample.run 7 Sample.world).1 = .ok { status := .successful, bytes := 3 } ∧ w' = w ∧
      Rested Sample.spec w (Sample.run 9 w').1 (Sample.run 9 w').2 :=
  ⟨rfl, idempotent Sample.partners Sample.setup Sample.task (fun _ => 7) [fun _ => 8] (fun _ => 9)
    Sample.isProper Sample.isIdentified Sample.dataApart rfl rfl⟩

end ReplicationTask

end CatalogReplication
