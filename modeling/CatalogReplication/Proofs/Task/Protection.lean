import CatalogReplication.Proofs.Task.Calls
import CatalogReplication.Proofs.Task.Consistency

/-!
# Records of other origin

A record is foreign to a cluster if it wasn't replicated from there. Tasks of one source cluster
that raise conflicts, run one after the other, protect what is foreign (`Protects`): each run does so
(`protects_of_reaches`), whatever the carrier answers and wherever the run is cut off. A run that
comes upon a foreign record where its own should be is refused (`ReplicationTask.Stops`), and a
conflict is only ever reported of a record that was foreign from the start
(`foreign_protected`).
-/

namespace CatalogReplication

open Catalog (View Site)

/-- A place has a record that wasn't replicated from the cluster of a name. -/
def Catalog.View.Foreign (name : String) (v : View) (s : Site) : Prop :=
  ∃ r : CatalogRecord, v.record? s = some (.object r) ∧
    r.body.parameters.get? sourceClusterKey ≠ some name

theorem Catalog.View.Foreign.congr {name : String} {v v' : View} {s : Site}
    (h : v.Foreign name s) (heq : v'.record? s = v.record? s) : v'.Foreign name s := by
  obtain ⟨r, hr, hne⟩ := h
  exact ⟨r, heq.trans hr, hne⟩

theorem Catalog.View.not_foreign_database {name database : String} {v : View} :
    ¬ v.Foreign name (.database database) := by
  rintro ⟨r, hr, -⟩
  obtain ⟨d, -, hd⟩ := Option.map_eq_some_iff.1 hr
  cases hd

theorem Sited.foreign_iff {ρ : Type} [Sited ρ] {name : String} {v : View} {k : Spec} :
    v.Foreign name (Sited.site ρ k) ↔ ∃ x : ρ, Catalogued.find k v = some x ∧
      (Maintained.body x).parameters.get? sourceClusterKey ≠ some name := by
  unfold Catalog.View.Foreign
  rw [Sited.record?_site]
  constructor
  · rintro ⟨r, hr, hne⟩
    obtain ⟨x, hx, heq⟩ := Option.map_eq_some_iff.1 hr
    obtain rfl := AnyRecord.object.inj heq
    rw [Sited.body_inject] at hne
    exact ⟨x, hx, hne⟩
  · rintro ⟨x, hx, hne⟩
    refine ⟨Sited.inject x, by rw [hx]; rfl, ?_⟩
    rwa [Sited.body_inject]

theorem Parameters.isReplicaOf_iff {p : Parameters} {source : Cluster} {name : String}
    (hn : source.name = .text name) :
    p.isReplicaOf source = true ↔ p.get? sourceClusterKey = some name := by
  unfold Parameters.isReplicaOf
  rw [hn]
  exact beq_iff_eq

namespace Task

/-- Tasks of the cluster of a name build their records, and raise conflicts. -/
structure Setup.Guards (o : Setup) (name : String) : Prop where
  source : o.source.name = .text name
  policy : o.policy = some .raising
  builder : ∃ b, o.builder = some b

theorem Setup.Guards.check_iff {o : Setup} {name : String} (ho : o.Guards name) {spec : Spec}
    {p : Parameters} :
    (∃ policy warning, o.policy = some policy ∧
        policy.check o.source o.destination spec p = .ok warning) ↔
      p.get? sourceClusterKey = some name := by
  rw [← Parameters.isReplicaOf_iff ho.source, ho.policy]
  constructor
  · rintro ⟨policy, warning, hpolicy, hcheck⟩
    cases hpolicy
    unfold ConflictPolicy.check at hcheck
    split at hcheck
    · assumption
    · cases hcheck
  · intro hreplica
    exact ⟨.raising, none, rfl, if_pos hreplica⟩

/-! ### Updates -/

namespace Item

variable {ρ : Type} [Sited ρ] {E : Partners} {o : Setup} {i : Item ρ} {w w₁ : E.World}
  {m : E.Moment} {c : Call} {s : Site} {name : String}

/-- Setups that raise conflicts tolerate exactly what isn't foreign. -/
theorem tolerated_iff (ho : o.Guards name) :
    i.Tolerated o w ↔ ¬ w.view.Foreign name (Sited.site ρ i.spec) := by
  rw [Sited.foreign_iff]
  constructor
  · rintro ht ⟨e, he, hne⟩
    exact hne (ho.check_iff.1 (ht e he))
  · intro hnot e he
    refine ho.check_iff.2 ?_
    by_contra hne
    exact hnot ⟨e, he, hne⟩

/-- No update writes where a foreign record is. -/
theorem Makes.not_foreign (ho : o.Guards name) (hi : i.IsIdentified) (h : i.Makes o w m c)
    (hs : c.site? = some s) : ¬ w.view.Foreign name s := by
  have hlook : c.isLook = false := by
    cases hc : c.isLook with
    | false => rfl
    | true =>
      rw [Call.site?_of_isLook hc] at hs
      cases hs
  rcases h.site hi hs with rfl | ⟨x, d, -, -, rfl⟩
  · exact (tolerated_iff ho).1 (h.tolerated hlook)
  · exact Catalog.View.not_foreign_database

/-- A wanted record isn't foreign, however it was stamped. -/
theorem get?_of_wants {x stored : ρ} (ho : o.Guards name) (hx : i.Wants o w x)
    (hs : comparable stored = comparable x) :
    (Maintained.body stored).parameters.get? sourceClusterKey = some name := by
  obtain ⟨b, -, hbuild⟩ := hx
  rw [← Parameters.isReplicaOf_iff ho.source]
  exact Builder.isReplicaOf_build ho.source hbuild hs

/-- What an update writes isn't foreign. -/
theorem Makes.replica {r : Catalog.Request} {now : Int} {a : r.Answer} {v v' : View}
    (ho : o.Guards name) (h : i.Makes o w m (.destination r)) (hv : v.Accepts now r a v')
    (hs : r.site? = some s) : ¬ v'.Foreign name s := by
  have hstored : ∀ {k : Spec} {x : ρ} {id : Int} {created : Option Int}, i.Wants o w x →
      v' = Catalogued.put k (Catalog.stamp now id created x) v →
      ¬ v'.Foreign name (Sited.site ρ k) := by
    intro k x id created hx hput
    rw [Sited.foreign_iff, hput, Catalogued.find_put_self]
    rintro ⟨stored, hstored, hne⟩
    obtain rfl := Option.some.inj hstored
    exact hne (get?_of_wants ho hx (comparable_stamp now id created x))
  generalize hc : Call.destination r = c at h
  cases h with
  | look _ => cases hc
  | report _ => cases hc
  | transfer _ _ _ _ => cases hc
  | house _ _ _ =>
    obtain rfl := Call.destination.inj hc
    obtain rfl := Option.some.inj hs
    exact Catalog.View.not_foreign_database
  | @create x hx _ =>
    obtain rfl := Call.destination.inj hc
    obtain ⟨id, hput⟩ := Catalogued.put_of_create hv
    rw [Sited.site?_create] at hs
    obtain rfl := Option.some.inj hs
    exact hstored hx hput
  | @alter x hx _ =>
    obtain rfl := Call.destination.inj hc
    obtain ⟨id, created, hput⟩ := Catalogued.put_of_alter hv
    rw [Sited.site?_alter] at hs
    obtain rfl := Option.some.inj hs
    exact hstored hx hput

/-- An update transfers only for its own place, which was looked up last, and if nothing foreign is
there. -/
theorem Makes.lookedUp {r : Transfer.Request} (ho : o.Guards name)
    (h : i.Makes o w m (.transfer r)) :
    lookedUp? m.log = some (Sited.site ρ i.spec) ∧
      ¬ w.view.Foreign name (Sited.site ρ i.spec) := by
  cases h with
  | transfer _ ht hm _ => exact ⟨hm.lookedUp, (tolerated_iff ho).1 ht⟩

end Item

theorem Cascade.Proceeds.foreign_iff {E : Partners} {o : Setup} {c : Cascade} {w w₁ : E.World}
    {name : String} {k : Spec} (hb : c.Proceeds o w w₁) :
    w₁.view.Foreign name (.partition k) ↔ w.view.Foreign name (.partition k) :=
  ⟨fun h => h.congr (hb.partition k).symm, fun h => h.congr (hb.partition k)⟩

theorem Cascade.Proceeds.existing {E : Partners} {o : Setup} {c : Cascade} {w w₁ : E.World}
    (hb : c.Proceeds o w w₁) : c.partitionItem.existing w₁ = c.partitionItem.existing w :=
  Sited.find_congr (hb.partition c.spec)

/-! ### What a run protects -/

/-- Every transfer of a log is for a place with a property, the one that was looked up last. -/
def CarriesFor (P : Site → Prop) : List Call → Prop
  | [] => True
  | c :: earlier =>
    (∀ r, c = .transfer r → ∃ s, lookedUp? earlier = some s ∧ P s) ∧ CarriesFor P earlier

theorem lookedUp?_append {log past : List Call} {s : Site} (h : lookedUp? log = some s) :
    lookedUp? (log ++ past) = some s := by
  fun_induction lookedUp? log with
  | case1 => cases h
  | case2 k earlier => exact h
  | case3 k earlier => exact h
  | case4 c earlier htable hpartition ih =>
    rw [List.cons_append, lookedUp?]
    · exact ih h
    · exact htable
    · exact hpartition

theorem CarriesFor.append {P : Site → Prop} {log past : List Call} (h : CarriesFor P log)
    (hpast : CarriesFor P past) : CarriesFor P (log ++ past) := by
  induction log with
  | nil => exact hpast
  | cons c earlier ih =>
    refine ⟨fun r hr => ?_, ih h.2⟩
    obtain ⟨s, hs, hP⟩ := h.1 r hr
    exact ⟨s, lookedUp?_append hs, hP⟩

theorem CarriesFor.mono {P Q : Site → Prop} {log : List Call} (h : CarriesFor P log)
    (hPQ : ∀ s, P s → Q s) : CarriesFor Q log := by
  induction log with
  | nil => trivial
  | cons c earlier ih =>
    refine ⟨fun r hr => ?_, ih h.2⟩
    obtain ⟨s, hs, hP⟩ := h.1 r hr
    exact ⟨s, hs, hPQ s hP⟩

/-- What is foreign in a world is protected by calls that lead to another one. -/
structure Protects {E : Partners} (name : String) (w : E.World) (log : List Call) (w' : E.World) :
    Prop where
  source : w'.source = w.source
  kept : ∀ s, w.view.Foreign name s → w'.view.record? s = w.view.record? s
  foreign : ∀ s, w'.view.Foreign name s → w.view.Foreign name s
  written : ∀ c ∈ log, ∀ s, c.site? = some s → ¬ w.view.Foreign name s
  carried : CarriesFor (fun s => ¬ w.view.Foreign name s) log

theorem Protects.refl {E : Partners} (name : String) (w : E.World) : Protects name w [] w :=
  ⟨rfl, fun _ _ => rfl, fun _ h => h, (fun _ hc => nomatch hc), trivial⟩

theorem Protects.trans {E : Partners} {name : String} {w w₁ w₂ : E.World} {log past : List Call}
    (h : Protects name w past w₁) (h' : Protects name w₁ log w₂) :
    Protects name w (log ++ past) w₂ := by
  have hforeign : ∀ s, w.view.Foreign name s → w₁.view.Foreign name s := fun s hs =>
    hs.congr (h.kept s hs)
  refine ⟨h'.source.trans h.source, fun s hs => ?_, fun s hs => h.foreign s (h'.foreign s hs),
    fun c hc s hs => ?_, ?_⟩
  · exact (h'.kept s (hforeign s hs)).trans (h.kept s hs)
  · rcases List.mem_append.1 hc with hc | hc
    · exact fun hw => h'.written c hc s hs (hforeign s hw)
    · exact h.written c hc s hs
  · exact (h'.carried.mono fun s hs hw => hs (hforeign s hw)).append h.carried

end Task

namespace ReplicationTask

open CatalogReplication.Task

variable {E : Partners} {o : Setup} {w : E.World} {t : ReplicationTask} {m m' : E.Moment} {c : Call}
  {s : Site} {name : String} {may : Call → Failure → Prop}

/-- No task writes where a foreign record is. -/
theorem Makes.not_foreign (ho : o.Guards name) (hi : t.IsIdentified w) (h : t.Makes o w m c)
    (hs : c.site? = some s) : ¬ w.view.Foreign name s := by
  cases h with
  | look h _ =>
    rw [Call.site?_of_isLook h] at hs
    cases hs
  | table ht h => exact h.not_foreign ho (isIdentified_ofTable ht) hs
  | @cascade c _ _ hfound _ h =>
    have hitem : c.tableItem.IsIdentified := isIdentified_ofTable hfound.table
    exact h.not_foreign ho hitem hs
  | @partition c w₁ _ hfound hb h =>
    have hitem : c.partitionItem.IsIdentified := hi _ hfound.partition
    rcases h.site hitem hs with rfl | ⟨x, d, -, -, rfl⟩
    · exact fun hw => h.not_foreign ho hitem hs (hb.foreign_iff.2 hw)
    · exact Catalog.View.not_foreign_database

/-- What a task writes isn't foreign. -/
theorem Makes.replica {r : Catalog.Request} {now : Int} {a : r.Answer} {v v' : View}
    (ho : o.Guards name) (h : t.Makes o w m (.destination r)) (hv : v.Accepts now r a v')
    (hs : r.site? = some s) : ¬ v'.Foreign name s := by
  cases h with
  | look h _ =>
    rw [(Catalog.Request.site?_eq_none_iff r).2 h] at hs
    cases hs
  | table _ h => exact h.replica ho hv hs
  | cascade _ _ h => exact h.replica ho hv hs
  | partition _ _ h => exact h.replica ho hv hs

/-- A task transfers only for a place where nothing foreign is, the one that was looked up last. -/
theorem Makes.lookedUp {r : Transfer.Request} (ho : o.Guards name)
    (h : t.Makes o w m (.transfer r)) :
    ∃ s, lookedUp? m.log = some s ∧ ¬ w.view.Foreign name s := by
  cases h with
  | look h _ => cases h
  | table _ h => exact ⟨_, h.lookedUp ho⟩
  | cascade _ _ h => exact ⟨_, h.lookedUp ho⟩
  | partition _ hb h =>
    obtain ⟨hlooked, hnot⟩ := h.lookedUp ho
    exact ⟨_, hlooked, fun hw => hnot (hb.foreign_iff.2 hw)⟩

/-- A call of a task protects what is foreign. -/
theorem protects_step {a : Except Failure c.Answer} (ho : o.Guards name) (hi : t.IsIdentified w)
    (hmakes : t.Makes o w m c) (ha : E.AnswersFreely may c m a m')
    (h : Protects name w m.log m.world) : Protects name w m'.log m'.world := by
  have hlog := Partners.log_of_answersFreely ha
  refine ⟨?_, fun s hs => ?_, fun s hs => ?_, fun c' hc' s hs => ?_, ?_⟩
  · have hlooks : ∀ r, c = .source r → r.isLookup = true := by
      rintro r rfl
      exact hmakes.looks
    exact (Partners.source_of_answers hlooks ha).trans h.source
  · have hother : c.site? ≠ some s := fun hsite => hmakes.not_foreign ho hi hsite hs
    exact (Partners.record?_of_answers ha hother).trans (h.kept s hs)
  · -- A foreign record was there before, since what is written isn't foreign.
    rcases Partners.view_of_answers ha with hview | ⟨r, rfl, -, now, answer, hview⟩
    · exact h.foreign s (hs.congr (by rw [hview]))
    · by_cases hsite : r.site? = some s
      · exact absurd hs (hmakes.replica ho hview hsite)
      · exact h.foreign s (hs.congr (hview.record?_eq hsite).symm)
  · rw [hlog] at hc'
    rcases List.mem_cons.1 hc' with rfl | hearlier
    · exact hmakes.not_foreign ho hi hs
    · exact h.written c' hearlier s hs
  · rw [hlog]
    refine ⟨?_, h.carried⟩
    rintro r rfl
    exact hmakes.lookedUp ho

/-- **A run protects what is foreign**, whatever the carrier answers, whichever calls fail, and
wherever it is cut off. -/
theorem protects_of_reaches {clock : Nat → Int} {p : TaskProgram Outcome} (ho : o.Guards name)
    (hi : t.IsIdentified w) (h : E.ReachesFreely may (t.program o) { world := w, clock } p m) :
    Protects name w m.log m.world := by
  have hensures : EnsuresFinishes E o t w may (t.program o) { world := w, clock } :=
    program_finishes rfl rfl
  have hprotects := hensures.invariant (fun _ _ hm => hm)
    (fun _ _ _ _ hmakes ha hm => protects_step ho hi hmakes ha hm) (Protects.refl name w)
  exact (hprotects.reaches h).holds (fun _ _ => rfl) (fun _ _ hm => hm.2) fun _ _ hm => hm.2

/-! ### How a run ends that meets what is foreign -/

section

variable (name : String) (o : Setup) (w : E.World)

/-- In a world, a task that made these calls came upon a foreign record, and is refused with a
failure: in the place of its object, once it has looked there or has no need to begin with the table,
or in that of a table that has to come first. -/
inductive Meets (log : List Call) : ReplicationTask → Failure → Prop where
  | ownTable {spec : Spec} {hint : Value} {t : TableRecord}
      (ht : w.sourceView.table spec.tableSpec = some t)
      (h : w.view.Foreign name (.table spec.tableSpec)) :
      Meets log (table spec hint) ((Item.ofTable spec t).refusal o w)
  | ownPartition {c : Cascade} (hfound : c.Found w)
      (hlooked : c.reason? w = none ∨ Call.destination (.getPartition c.spec) ∈ log)
      (h : w.view.Foreign name (.partition c.spec)) :
      Meets log (partition c.spec) (c.partitionItem.refusal o w)
  | tableOf {c : Cascade} {reason : String} (hfound : c.Found w)
      (hreason : c.reason? w = some reason) (h : w.view.Foreign name (.table c.spec.tableSpec)) :
      Meets log (partition c.spec) (c.tableItem.refusal o w)

/-- How a run of a task from a world ends if something foreign is in its way: it is refused, without
any change if a table had to come first; and no other run reports a conflict. -/
structure Stops (t : ReplicationTask) (r : Except Failure Outcome) (m : E.Moment) : Prop where
  refused : ∀ e, t.Meets name o w m.log e → r = .error e
  unchanged : ∀ (c : Cascade) reason, t = partition c.spec → c.Found w →
    c.reason? w = some reason → w.view.Foreign name (.table c.spec.tableSpec) →
      m.world = w ∧ ∀ q, Call.transfer q ∉ m.log
  foreign : ∀ x, r = .error (.conflict x) → w.view.Foreign name (Site.object x.spec)

end

/-- Only transfers fail, and not by a conflict. -/
def TransfersFail (c : Call) (e : Failure) : Prop :=
  (∃ r, c = .transfer r) ∧ ∀ x, e ≠ .conflict x

theorem TransfersFail.not_isLook {e : Failure} (h : TransfersFail c e) : c.isLook = false := by
  obtain ⟨⟨r, rfl⟩, -⟩ := h
  rfl

end ReplicationTask

namespace Task.Item

variable {ρ : Type} [Sited ρ] {E : Partners} {o : Setup} {i : Item ρ} {w w₁ : E.World}
  {m : E.Moment} {r : Except Failure Outcome} {name : String}

theorem refusal_congr (h : i.existing w₁ = i.existing w) : i.refusal o w₁ = i.refusal o w := by
  unfold refusal
  rw [h]

/-- An update with a foreign record in its way is refused. -/
theorem Finishes.refused_of_foreign (ho : o.Guards name)
    (h : i.Finishes o w ReplicationTask.TransfersFail r m)
    (hforeign : w.view.Foreign name (Sited.site ρ i.spec)) : r = .error (i.refusal o w) := by
  have hnot : ¬ i.Tolerated o w := fun ht => (tolerated_iff ho).1 ht hforeign
  obtain ⟨-, e, hr, he⟩ := h.refused hnot
  rcases he with ⟨c, hc, hmay⟩ | rfl
  · rw [hmay.not_isLook] at hc
    cases hc
  · exact hr

/-- An update reports a conflict only of a foreign record. -/
theorem Finishes.foreign_of_conflict {x : Conflict} (ho : o.Guards name) (hi : i.IsIdentified)
    (h : i.Finishes o w ReplicationTask.TransfersFail r m) (hr : r = .error (.conflict x)) :
    Site.object x.spec = Sited.site ρ i.spec ∧ w.view.Foreign name (Sited.site ρ i.spec) := by
  rcases h.rejected x hr with ⟨c, -, hne⟩ | ⟨hnot, rfl⟩
  · exact absurd rfl (hne x)
  · refine ⟨?_, ?_⟩
    · show Site.object (Replicable.spec i.record) = _
      rw [Sited.object_spec, hi, Sited.site_key]
    · by_contra hforeign
      exact hnot ((tolerated_iff ho).2 hforeign)

end Task.Item

namespace ReplicationTask

open CatalogReplication.Task

variable {E : Partners} {o : Setup} {w : E.World} {t : ReplicationTask} {m : E.Moment}
  {r : Except Failure Outcome} {name : String}

/-- A task that comes upon a foreign record is refused. -/
theorem Finishes.refused_of_meets {e : Failure} (ho : o.Guards name)
    (h : t.Finishes o w TransfersFail r m) (hmeets : t.Meets name o w m.log e) : r = .error e := by
  have hlooks : ∀ {c e}, c.isLook = true → ¬ TransfersFail c e := fun hc hfail => by
    rw [hfail.not_isLook] at hc
    cases hc
  cases hmeets with
  | ownTable ht hforeign =>
    rcases h.of_table ht with ⟨c, e, hc, hfail, -⟩ | hends
    · exact absurd hfail (hlooks hc)
    · exact hends.refused_of_foreign ho hforeign
  | @ownPartition c hfound hlooked hforeign =>
    rcases h.of_partition hfound with ⟨call, e, hc, hfail, -⟩ | ⟨hunseen, reason, hreason, -⟩ |
      ⟨w₁, hb, hends⟩
    · exact absurd hfail (hlooks hc)
    · -- The table came first, and the run ended before it looked the partition up.
      rcases hlooked with hnone | hseen
      · rw [hreason] at hnone
        cases hnone
      · exact absurd hseen hunseen
    · rw [← Item.refusal_congr hb.existing]
      exact hends.refused_of_foreign ho (hb.foreign_iff.2 hforeign)
  | @tableOf c reason hfound hreason hforeign =>
    have hnot : ¬ c.tableItem.Tolerated o w := fun ht => (Item.tolerated_iff ho).1 ht hforeign
    rcases h.of_partition hfound with ⟨call, e, hc, hfail, -⟩ | ⟨-, -, -, hends | ht⟩ |
      ⟨w₁, hb, -⟩
    · exact absurd hfail (hlooks hc)
    · exact hends.refused_of_foreign ho hforeign
    · exact absurd ht hnot
    · rcases hb.table with hnone | ht
      · rw [hreason] at hnone
        cases hnone
      · exact absurd ht hnot

/-- A task reports a conflict only of a foreign record. -/
theorem Finishes.foreign_of_conflict {x : Conflict} (ho : o.Guards name) (hi : t.IsIdentified w)
    (h : t.Finishes o w TransfersFail r m) (hr : r = .error (.conflict x)) :
    w.view.Foreign name (Site.object x.spec) := by
  cases h with
  | fault _ hfail hr' =>
    obtain rfl := Except.error.inj (hr.symm.trans hr')
    exact absurd rfl (hfail.2 x)
  | missing _ hr' =>
    rw [hr'] at hr
    cases hr
  | table ht h =>
    obtain ⟨hsite, hforeign⟩ := h.foreign_of_conflict ho (isIdentified_ofTable ht) hr
    rwa [hsite]
  | @cascade c _ _ hfound _ _ h _ =>
    have hitem : c.tableItem.IsIdentified := isIdentified_ofTable hfound.table
    obtain ⟨hsite, hforeign⟩ := h.foreign_of_conflict ho hitem hr
    rwa [hsite]
  | cascadeFailed _ _ _ _ hr' =>
    rw [hr'] at hr
    cases hr
  | @partition c w₁ hfound hb h =>
    have hitem : c.partitionItem.IsIdentified := hi _ hfound.partition
    obtain ⟨hsite, hforeign⟩ := h.foreign_of_conflict ho hitem hr
    rw [hsite]
    exact hb.foreign_iff.1 hforeign

/-- A partition task whose table has to come first and is foreign only looks. -/
theorem Makes.isLook_of_foreign {c : Cascade} {reason : String} {call : Call} (ho : o.Guards name)
    (hfound : c.Found w) (hreason : c.reason? w = some reason)
    (hforeign : w.view.Foreign name (.table c.spec.tableSpec))
    (h : (ReplicationTask.partition c.spec).Makes o w m call) : call.isLook = true := by
  have hnot : ¬ c.tableItem.Tolerated o w := fun ht => (Item.tolerated_iff ho).1 ht hforeign
  rcases h.of_partition hfound with hlook | ⟨-, -, h⟩ | ⟨w₁, hb, -⟩
  · exact hlook
  · by_contra hlook
    exact hnot (h.tolerated (Bool.eq_false_iff.2 hlook))
  · rcases hb.table with hnone | ht
    · rw [hreason] at hnone
      cases hnone
    · exact absurd ht hnot

/-- **A run that meets what is foreign** is refused, and only such a run reports a conflict. -/
theorem stops_of_reaches {clock : Nat → Int} (ho : o.Guards name) (hi : t.IsIdentified w)
    (h : E.ReachesFreely TransfersFail (t.program o) { world := w, clock } (.ofExcept r) m) :
    t.Stops name o w r m := by
  have hensures : EnsuresFinishes E o t w TransfersFail (t.program o) { world := w, clock } :=
    program_finishes rfl rfl
  have hends : t.Finishes o w TransfersFail r m := by
    have hend := hensures.reaches h
    cases r <;> exact hend
  refine ⟨fun e hmeets => hends.refused_of_meets ho hmeets, ?_,
    fun x hr => hends.foreign_of_conflict ho hi hr⟩
  rintro c reason rfl hfound hreason hforeign
  -- All calls look, so they change nothing.
  have hkept := hensures.invariant
    (I := fun m' => m'.world = w ∧ ∀ q, Call.transfer q ∉ m'.log) (fun _ _ hm => hm)
    (fun call m₁ a m₂ hmakes ha hm => by
      have hlook := hmakes.isLook_of_foreign ho hfound hreason hforeign
      refine ⟨(Partners.world_of_answers hlook ha).trans hm.1, fun q hq => ?_⟩
      rw [Partners.log_of_answersFreely ha] at hq
      rcases List.mem_cons.1 hq with rfl | hearlier
      · cases hlook
      · exact hm.2 q hearlier) ⟨rfl, fun _ hq => nomatch hq⟩
  exact (hkept.reaches h).holds (fun _ _ => rfl) (fun _ _ hm => hm.2) fun _ _ hm => hm.2

end ReplicationTask

/-! ### An example -/

namespace Task.Sample

/-- Two keyed catalogs, and one tree for each location. -/
def keyedPartners : Partners where
  source := Catalog.keyed
  destination := Catalog.keyed
  carrier := Transfer.flat

/-- Records of other origin are not to be overwritten. -/
def guarded : Setup := { setup with policy := some .raising }

theorem guards_guarded : guarded.Guards "here" := ⟨rfl, rfl, {}, rfl⟩

/-- A catalog of one table, which has no partitions. -/
def rival (location : Option String) : Catalog.Keyed where
  databases := [("shop", { name := "shop" })]
  tables := [(spec.tableSpec, { database := "shop", name := "orders", body := { location } })]
  lastId := 1

theorem named_rival (location : Option String) : (rival location).view.Named :=
  Catalog.Keyed.named_of_tables (List.forall_mem_singleton.2 rfl)

/-- The source is as it was, but the destination has a table of its own in the way. -/
def contested : keyedPartners.World where
  source := ⟨catalog, named_catalog⟩
  destination := ⟨rival none, named_rival none⟩
  files := world.files

/-- The source has a table whose location can't be read, and the destination one of its own. -/
def unreadable : keyedPartners.World where
  source := ⟨rival (some "hdfs://[here/orders"), named_rival _⟩
  destination := ⟨rival none, named_rival none⟩
  files := world.files

/-- A run of a task that doesn't overwrite records of other origin. -/
def guardedRun (t : ReplicationTask) (w : keyedPartners.World) :
    TaskProgram Outcome × keyedPartners.Moment :=
  keyedPartners.upTo (t.program guarded) 30 { world := w, clock := fun _ => 7 }

theorem transfersFail_flat {r : Transfer.Request} {s : Transfer.Shelf} {e : Failure}
    (h : (Transfer.serveShelf r s).1 = .error e) :
    ReplicationTask.TransfersFail (.transfer r) e := by
  refine ⟨⟨r, rfl⟩, fun x hx => ?_⟩
  subst hx
  unfold Transfer.serveShelf at h
  split at h
  · cases h
  · cases h
  · split at h <;> cases h
  · split at h <;> cases h

theorem reaches_guardedRun {may : Call → Failure → Prop}
    (hmay : ∀ c e, ReplicationTask.TransfersFail c e → may c e) (t : ReplicationTask)
    (w : keyedPartners.World) :
    keyedPartners.ReachesFreely may (t.program guarded) { world := w, clock := fun _ => 7 }
      (guardedRun t w).1 (guardedRun t w).2 :=
  Partners.reachesFreely_upTo (fun _ _ _ he => hmay _ _ (transfersFail_flat he)) _ 30 _

end Task.Sample

/-! ### Protection -/

namespace Task

variable {E : Partners}

/-- Every partition of the source names itself, as every table does. -/
def SourceIdentified (w : E.World) : Prop := ∀ k p, w.sourceView.partition k = some p → p.spec = k

/-- Runs of tasks that guard what is foreign to a cluster, one after the other, each with any answers
of the carrier and any failures, and cut off anywhere: the calls that were made, the latest first,
and the world that is left. -/
inductive Follows (name : String) (w₀ : E.World) : List Call → E.World → Prop where
  | start : Follows name w₀ [] w₀
  | run {past : List Call} {w : E.World} {o : Setup} {t : ReplicationTask} {clock : Nat → Int}
      {p : TaskProgram Outcome} {m : E.Moment} (h : Follows name w₀ past w) (ho : o.Guards name)
      (hr : E.ReachesFreely (fun _ _ => True) (t.program o) { world := w, clock } p m) :
      Follows name w₀ (m.log ++ past) m.world

variable {name : String} {w₀ w : E.World} {past : List Call}

theorem SourceIdentified.isIdentified (hi : SourceIdentified w₀) (hs : w.source = w₀.source)
    (t : ReplicationTask) : t.IsIdentified w := by
  have hsource : w.sourceView = w₀.sourceView := congrArg E.source.view hs
  cases t with
  | table spec hint => exact fun t ht => isIdentified_ofTable ht
  | partition spec =>
    intro p hp
    rw [hsource] at hp
    exact hi spec p hp

/-- Runs one after the other protect what is foreign. -/
theorem protects_of_follows (hi : SourceIdentified w₀) (h : Follows name w₀ past w) :
    Protects name w₀ past w := by
  induction h with
  | start => exact .refl name w₀
  | @run past w o t clock p m _ ho hr ih =>
    exact ih.trans (ReplicationTask.protects_of_reaches ho (hi.isIdentified ih.source t) hr)

/-- **Foreign records are protected**: runs that raise conflicts leave them alone, and carry no data
for them. A run that comes upon one in its way is refused, with a conflict if its own record could be
built; and no run reports a conflict of a record that was written by a run before it. -/
theorem foreign_protected (E : Partners) (name : String) {w₀ w : E.World} {past : List Call}
    (hi : SourceIdentified w₀) (h : Follows name w₀ past w) :
    Protects name w₀ past w ∧ ∀ (o : Setup) (t : ReplicationTask) (clock : Nat → Int)
      (r : Except Failure Outcome) (m : E.Moment), o.Guards name →
        E.ReachesFreely ReplicationTask.TransfersFail (t.program o) { world := w, clock }
          (.ofExcept r) m →
        t.Stops name o w r m ∧ ∀ x, r = .error (.conflict x) →
          ∀ c ∈ past, c.site? ≠ some (Site.object x.spec) := by
  have hprotects := protects_of_follows hi h
  refine ⟨hprotects, fun o t clock r m ho hr => ?_⟩
  have hstops := ReplicationTask.stops_of_reaches ho (hi.isIdentified hprotects.source t) hr
  refine ⟨hstops, fun x hx c hc hsite => ?_⟩
  exact hprotects.written c hc _ hsite (hprotects.foreign _ (hstops.foreign x hx))

/-- Twice in a row, a table of other origin is in the way of a partition. -/
theorem foreign_protected_sample :
    Protects "here" Sample.contested (Sample.guardedRun Sample.task Sample.contested).2.log
        (Sample.guardedRun Sample.task Sample.contested).2.world ∧
      Sample.task.Stops "here" Sample.guarded
        (Sample.guardedRun Sample.task Sample.contested).2.world
        (.error (.conflict { spec := Sample.spec.tableSpec, destination := "there", source := "here" }))
        (Sample.guardedRun Sample.task
          (Sample.guardedRun Sample.task Sample.contested).2.world).2 := by
  have hi : SourceIdentified Sample.contested := by
    intro k p h
    have hmem : (k, p) ∈ Sample.catalog.partitions := Assoc.mem_of_lookup h
    cases List.mem_singleton.1 hmem
    rfl
  have hfirst := Sample.reaches_guardedRun (fun _ _ _ => trivial) Sample.task Sample.contested
  have hfollows := Follows.run .start Sample.guards_guarded hfirst
  rw [List.append_nil] at hfollows
  obtain ⟨hprotects, hruns⟩ := foreign_protected Sample.keyedPartners "here" hi hfollows
  exact ⟨hprotects, (hruns Sample.guarded Sample.task (fun _ => 7) _ _ Sample.guards_guarded
    (Sample.reaches_guardedRun (fun _ _ h => h) Sample.task _)).1⟩

/-- A record that can't be built is refused without a conflict, though what is there is foreign. -/
theorem refused_without_conflict :
    Sample.guarded.Guards "here" ∧ SourceIdentified Sample.unreadable ∧
      Sample.unreadable.view.Foreign "here" (.table Sample.spec.tableSpec) ∧
      (Sample.unreadable.sourceView.table Sample.spec.tableSpec).isSome = true ∧
      (Sample.guardedRun (.table Sample.spec.tableSpec .null) Sample.unreadable).1 =
        .fail .authority := by
  refine ⟨Sample.guards_guarded, fun k p h => ?_, ⟨_, rfl, nofun⟩, rfl, rfl⟩
  cases h

end Task

end CatalogReplication
