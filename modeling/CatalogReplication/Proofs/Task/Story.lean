import CatalogReplication.Proofs.Task.Decision

/-!
# The events of a task tell its story

What a task did to the destination, and how it ended, can be read off the events that it emitted,
whatever its partners answer.

* `Accounts`: the events of a task carry its spec, and those that report a change are, in order, the
  changes that were made. A part of a procedure may owe the report of a change made before it.
* `Ending`: an event of a final kind is emitted last or not at all, and it says how the task ends.
* `program_tells`: both for a table task and a partition task; within a partition task, the part of
  the table has its own events and changes.
-/

namespace CatalogReplication

/-- Whether an event reports a change of the destination. -/
def EventKind.isChange : EventKind → Bool
  | databaseCreated | metadataCreated | metadataAltered | dataCopied | stagedDataMoved => true
  | _ => false

/-- Whether an event tells what became of the record. -/
def EventKind.isRecord : EventKind → Bool
  | metadataCreated | metadataAltered | metadataUnchanged => true
  | _ => false

/-- How a task ends whose own last event is of a kind, if it ends with that. -/
def EventKind.ends? : EventKind → Option RunStatus
  | taskComplete => some .successful
  | sourceMissing | dataCopyDisallowed | sourcePathMissing => some .notCompletable
  | dataCopyFailed | tableCascadeFailed => some .failed
  | _ => none

namespace Task

open TaskProgram

namespace Exchange

/-- The event that was emitted. -/
def event? (x : Exchange) : Option Event :=
  match x.call with
  | .hear e => some e
  | _ => none

/-- What a call changed at the destination, by the kind of the event that reports it. -/
def change? : Exchange → Option EventKind
  | ⟨.destination (.createDatabaseIfAbsent _), .ok true⟩ => some .databaseCreated
  | ⟨.destination (.createTable _), .ok _⟩ | ⟨.destination (.addPartition _), .ok _⟩ =>
    some .metadataCreated
  | ⟨.destination (.alterTable _), .ok _⟩ | ⟨.destination (.alterPartition _ _), .ok _⟩ =>
    some .metadataAltered
  | ⟨.transfer (.copy _ _ _), .ok _⟩ => some .dataCopied
  | ⟨.transfer (.move _ _), .ok _⟩ => some .stagedDataMoved
  | _ => none

@[simp] theorem change?_error {c : Call} {e : Failure} : change? ⟨c, .error e⟩ = none := by
  rcases c with r | r | r | e' <;> first | rfl | (cases r <;> rfl)

end Exchange

/-- The events of a transcript. -/
def events (T : List Exchange) : List Event := T.filterMap Exchange.event?

/-- The changes of the destination in a transcript. -/
def changes (T : List Exchange) : List EventKind := T.filterMap Exchange.change?

/-- The changes that the events of a transcript report, each with the spec of the task. -/
def reports (T : List Exchange) : List (Spec × EventKind) :=
  ((events T).filter fun e => e.kind.isChange).map fun e => (e.spec, e.kind)

@[simp] theorem events_nil : events [] = [] := rfl

@[simp] theorem changes_nil : changes [] = [] := rfl

@[simp] theorem reports_nil : reports [] = [] := rfl

@[simp] theorem events_append (T T' : List Exchange) : events (T ++ T') = events T ++ events T' :=
  List.filterMap_append

@[simp] theorem changes_append (T T' : List Exchange) :
    changes (T ++ T') = changes T ++ changes T' := List.filterMap_append

@[simp] theorem reports_append (T T' : List Exchange) :
    reports (T ++ T') = reports T ++ reports T' := by simp [reports]

theorem events_cons (x : Exchange) (T : List Exchange) :
    events (x :: T) = x.event?.toList ++ events T := by
  unfold events
  cases h : x.event? <;> simp [h]

theorem changes_cons (x : Exchange) (T : List Exchange) :
    changes (x :: T) = x.change?.toList ++ changes T := by
  unfold changes
  cases h : x.change? <;> simp [h]

theorem reports_cons_of_none {x : Exchange} (h : x.event? = none) (T : List Exchange) :
    reports (x :: T) = reports T := by
  unfold reports
  rw [events_cons, h]
  rfl

theorem reports_heard {kind : EventKind} {spec : Spec} {details : List (String × Value)}
    {x : Except Failure Unit} (T : List Exchange) :
    reports (.heard kind spec details x :: T) =
      (if kind.isChange then [(spec, kind)] else []) ++ reports T := by
  unfold reports
  rw [events_cons]
  cases h : kind.isChange <;> simp [Exchange.event?, h]

/-! ### Events and changes -/

/-- The events of a transcript are those of the task for a spec. They report the changes that were
still to be reported, and then those of the transcript. -/
structure Accounted (spec : Spec) (owed : List EventKind) (T : List Exchange) : Prop where
  own : ∀ e ∈ events T, e.spec = spec
  reports : reports T = (owed ++ changes T).map fun k => (spec, k)

/-- A procedure whose events account for its changes, and for what is owed before it. -/
def Accounts {α : Type} (spec : Spec) (owed : List EventKind) (p : TaskProgram α) : Prop :=
  ∀ T r, p.Yields T r → Accounted spec owed T

section

variable {α β : Type} {spec : Spec} {owed : List EventKind}

theorem accounted_nil : Accounted spec [] [] := ⟨by simp, rfl⟩

theorem Accounted.append {T T' : List Exchange} (h : Accounted spec owed T)
    (h' : Accounted spec [] T') : Accounted spec owed (T ++ T') where
  own e he := by
    rw [events_append] at he
    exact (List.mem_append.1 he).elim (h.own e) (h'.own e)
  reports := by simp [h.reports, h'.reports]

/-- An exchange that is no event, before what reports its change. -/
theorem Accounted.cons {x : Exchange} {T : List Exchange} (hx : x.event? = none)
    (h : Accounted spec x.change?.toList T) : Accounted spec [] (x :: T) where
  own e he := by
    rw [events_cons, hx] at he
    exact h.own e he
  reports := by
    rw [reports_cons_of_none hx, h.reports, changes_cons]
    rfl

/-- An event of the task; it reports a change if one is owed. -/
theorem Accounted.heard {kind : EventKind} {details : List (String × Value)}
    {x : Except Failure Unit} {T : List Exchange} (h : Accounted spec [] T)
    (howed : owed = if kind.isChange then [kind] else []) :
    Accounted spec owed (.heard kind spec details x :: T) where
  own e he := by
    rw [events_cons] at he
    obtain rfl | he := List.mem_cons.1 he
    · rfl
    · exact h.own e he
  reports := by
    have hchange : changes (.heard kind spec details x :: T) = changes T := rfl
    rw [reports_heard, hchange, h.reports, howed]
    cases kind.isChange <;> rfl

theorem accounts_done {a : α} : Accounts spec [] (.done a : TaskProgram α) := by
  rintro T r h
  obtain ⟨rfl, rfl⟩ := Program.yields_done_iff.1 h
  exact accounted_nil

theorem accounts_ofExcept {x : Except Failure α} :
    Accounts spec [] (.ofExcept x : TaskProgram α) := by
  rintro T r h
  obtain ⟨rfl, rfl⟩ := Program.yields_ofExcept_iff.1 h
  exact accounted_nil

theorem Accounts.bind {p : TaskProgram α} {f : α → TaskProgram β} (h : Accounts spec owed p)
    (hf : ∀ a, Accounts spec [] (f a)) : Accounts spec owed (p.bind f) := by
  rintro T r hT
  obtain ⟨e, hp, -⟩ | ⟨a, T₁, T₂, rfl, hp, ha⟩ := Program.yields_bind_iff.1 hT
  · exact h _ _ hp
  · exact (h _ _ hp).append (hf a _ _ ha)

/-- A call that is no event, and a procedure that reports what it changed. -/
theorem accounts_perform_bind {c : Call} {f : c.Answer → TaskProgram α}
    (hc : ∀ a, Exchange.event? ⟨c, a⟩ = none)
    (hf : ∀ a, Accounts spec (Exchange.change? ⟨c, .ok a⟩).toList (f a)) :
    Accounts spec [] ((Program.perform c).bind f) := by
  rintro T r hT
  obtain ⟨e, rfl, -⟩ | ⟨a, T', rfl, ha⟩ := Program.yields_perform_bind_iff.1 hT
  · refine .cons (hc _) ?_
    rw [Exchange.change?_error]
    exact accounted_nil
  · exact .cons (hc _) (hf a _ _ ha)

/-- An event of the task, and what follows. -/
theorem accounts_emit_bind {kind : EventKind} {details : List (String × Value)}
    {f : Unit → TaskProgram α} (howed : owed = if kind.isChange then [kind] else [])
    (hf : Accounts spec [] (f ())) : Accounts spec owed ((emit spec kind details).bind f) := by
  rintro T r hT
  obtain ⟨e, rfl, -⟩ | ⟨_, T', rfl, ha⟩ := Program.yields_perform_bind_iff.1 hT
  · exact accounted_nil.heard howed
  · exact (hf _ _ ha).heard howed

theorem accounts_emit {kind : EventKind} {details : List (String × Value)}
    (howed : owed = if kind.isChange then [kind] else []) :
    Accounts spec owed (emit spec kind details) := by
  rw [← Program.bind_done (emit spec kind details)]
  exact accounts_emit_bind howed accounts_done

end

/-! ### The parts of a task account for their changes -/

section

variable {o : DataOptions} {spec : Spec} {T : List Exchange} {r : Except Failure DataResult}

theorem accounted_of_lookout {a : String} (h : Lookout o spec a T) : Accounted spec [] T := by
  cases h with
  | unset _ => exact accounted_nil
  | mismatch _ => exact .cons rfl (accounted_nil.heard rfl)

theorem accounted_of_copyCourse {a b : String} (h : CopyCourse o spec a b T r) :
    Accounted spec [] T := by
  cases h with
  | unknown => exact .cons rfl accounted_nil
  | unseen _ => exact .cons rfl (.cons rfl accounted_nil)
  | broken _ _ => exact .cons rfl (.cons rfl (.cons rfl accounted_nil))
  | upToDate | disallowed _ => exact .cons rfl (accounted_nil.heard rfl)
  | missing _ => exact .cons rfl (.cons rfl (accounted_nil.heard rfl))
  | copied _ | failed _ => exact .cons rfl (.cons rfl (.cons rfl (accounted_nil.heard rfl)))

theorem accounts_reconcileData {a b : Option String} :
    Accounts spec [] (reconcileData o spec a b) := by
  intro T r h
  cases course_of_yields h with
  | nowhere _ | unplaced _ _ _ => exact accounted_nil
  | shared => exact accounted_nil.heard rfl
  | unknown _ _ => exact .cons rfl accounted_nil
  | unheard _ _ => exact .cons rfl (accounted_nil.heard rfl)
  | moved _ _ | failed _ _ => exact .cons rfl (.cons rfl (accounted_nil.heard rfl))
  | broken _ _ _ => exact .cons rfl (.cons rfl accounted_nil)
  | copies _ hl hc => exact (accounted_of_lookout hl).append (accounted_of_copyCourse hc)

end

/-- Records whose requests are known as changes. -/
class Reported (ρ : Type) [Catalogued ρ] : Prop where
  change?_create : ∀ (x : ρ) (a : (Replicable.create x).Answer),
    Exchange.change? ⟨.destination (Replicable.create x), .ok a⟩ = some .metadataCreated
  change?_alter : ∀ (k : Spec) (x : ρ) (a : (Replicable.alter k x).Answer),
    Exchange.change? ⟨.destination (Replicable.alter k x), .ok a⟩ = some .metadataAltered

instance : Reported TableRecord := ⟨fun _ _ => rfl, fun _ _ _ => rfl⟩

instance : Reported PartitionRecord := ⟨fun _ _ => rfl, fun _ _ _ => rfl⟩

section

variable {ρ : Type} [Catalogued ρ] [DecidableEq ρ] [Reported ρ] {o : Setup} {spec : Spec}

theorem accounts_ensureDatabase {name : String} :
    Accounts spec [] (ensureDatabase o spec name) := by
  refine accounts_perform_bind (fun _ => rfl) fun _ => accounts_ofExcept.bind fun d => ?_
  refine accounts_perform_bind (fun _ => rfl) fun made => ?_
  cases made with
  | true => exact accounts_emit rfl
  | false => exact accounts_done

/-- A change of a record, before what reports it. -/
theorem accounts_write_bind {α : Type} {r : Catalog.Request} {kind : EventKind}
    {f : Unit → TaskProgram α} (hr : ∀ a, Exchange.change? ⟨.destination r, .ok a⟩ = some kind)
    (hf : Accounts spec [kind] (f ())) : Accounts spec [] ((write r).bind f) := by
  have hwrite : (write r).bind f = (Program.perform (Call.destination r)).bind fun _ => f () :=
    Program.bind_assoc _ _ _
  rw [hwrite]
  refine accounts_perform_bind (fun _ => rfl) fun a => ?_
  rw [hr a]
  exact hf

theorem accounts_publish {existing : Option ρ} {x : ρ} :
    Accounts spec [] (publish o spec existing x) := by
  unfold publish
  cases Action.decide existing x with
  | create =>
    exact accounts_ensureDatabase.bind fun _ =>
      accounts_write_bind (Reported.change?_create x) (accounts_emit rfl)
  | alter => exact accounts_write_bind (Reported.change?_alter spec x) (accounts_emit rfl)
  | keep => exact accounts_emit rfl

theorem accounts_finish {i : Item ρ} {existing : Option ρ} {x : ρ} {n : Int} :
    Accounts i.spec [] (i.finish o existing x n) :=
  accounts_publish.bind fun _ => accounts_emit_bind rfl accounts_ofExcept

theorem accounts_carry {i : Item ρ} {existing : Option ρ} {x : ρ} :
    Accounts i.spec [] (i.carry o existing x) := by
  unfold Item.carry
  cases i.ownsData with
  | false => exact accounts_finish
  | true =>
    refine accounts_reconcileData.bind fun d => ?_
    cases d.outcome with
    | none => exact accounts_finish
    | some out => exact accounts_done

omit [Catalogued ρ] [DecidableEq ρ] [Reported ρ] in
/-- Building the record that is expected makes no call. -/
theorem nil_of_yields_expect [Maintained ρ] {record : ρ} {existing : Option ρ} {T : List Exchange}
    {r : Except Failure ρ} (h : (expect o record existing).Yields T r) : T = [] := by
  unfold expect at h
  cases hb : o.builder with
  | none =>
    rw [hb] at h
    exact (Program.yields_fail_iff.1 h).1
  | some b =>
    rw [hb] at h
    exact (Program.yields_ofExcept_iff.1 h).1

/-- Asking the policy makes no call. -/
theorem nil_of_yields_checkConflict {existing : Parameters} {T : List Exchange}
    {r : Except Failure Unit} (h : (checkConflict o spec existing).Yields T r) : T = [] := by
  unfold checkConflict at h
  cases hp : o.policy with
  | none =>
    rw [hp] at h
    exact (Program.yields_fail_iff.1 h).1
  | some policy =>
    simp only [hp] at h
    split at h
    · exact (Program.yields_done_iff.1 h).1
    · exact (Program.yields_done_iff.1 (Program.yields_note_iff.1 h)).1
    · exact (Program.yields_fail_iff.1 h).1

theorem accounts_of_silent {α : Type} {p : TaskProgram α} (h : ∀ {T r}, p.Yields T r → T = []) :
    Accounts spec [] p := by
  rintro T r hT
  obtain rfl := h hT
  exact accounted_nil

theorem accounts_update {i : Item ρ} {existing : Option ρ} :
    Accounts i.spec [] (update o i.spec i.ownsData i.record existing) := by
  rw [Item.update_eq]
  refine (accounts_of_silent nil_of_yields_expect).bind fun x => ?_
  cases existing with
  | none => exact accounts_carry
  | some e =>
    exact accounts_emit_bind rfl
      ((accounts_of_silent nil_of_yields_checkConflict).bind fun _ => accounts_carry)

theorem accounts_sourceMissing {object : String} :
    Accounts spec [] (sourceMissing spec object) := accounts_emit_bind rfl accounts_done

theorem accounts_table : Accounts spec [] (table o spec) := by
  refine accounts_perform_bind (fun _ => rfl) fun t => ?_
  cases t with
  | none => exact accounts_sourceMissing
  | some t =>
    exact accounts_perform_bind (fun _ => rfl) fun _ => accounts_update (i := .ofTable spec t)

theorem accounts_updatePartition {p : PartitionRecord} :
    Accounts spec [] (updatePartition o spec p) :=
  accounts_perform_bind (fun _ => rfl) fun _ => accounts_update (i := .ofPartition spec p)

end

/-! ### How the events of a task end -/

/-- A transcript in which no hearer raises, and no copy answers with a negative number. -/
structure Fair (T : List Exchange) : Prop where
  heard : ∀ e a, ⟨.hear e, a⟩ ∈ T → a = .ok ()
  sized : ∀ a b tags n, .copy a b tags (.ok n) ∈ T → 0 ≤ n

/-- None of the events of a task is final. -/
def Unfinal (spec : Spec) (E : List Event) : Prop :=
  ∀ e ∈ E, e.spec = spec → e.kind.ends? = none

/-- An event of a task for a spec by which it tells what became of the record. -/
def tellsRecord (spec : Spec) (e : Event) : Bool := e.spec == spec && e.kind.isRecord

/-- An event of a task for a spec by which it tells that data was copied. -/
def tellsCopy (spec : Spec) (e : Event) : Bool := e.spec == spec && e.kind == .dataCopied

/-- The event by which a task tells that it copied data. -/
def copyReport (spec : Spec) (a b : String) (bytes : Nat) : Event where
  kind := .dataCopied
  spec := spec
  details := .map [("src", .text a), ("dest", .text b), ("bytes_copied", .int bytes)]

/-- The events of a task tell of one copy of this many bytes, or of none and the number is zero. -/
def TellsBytes (spec : Spec) (E : List Event) (n : Nat) : Prop :=
  (E.filter (tellsCopy spec) = [] ∧ n = 0) ∨
    ∃ a b, E.filter (tellsCopy spec) = [copyReport spec a b n]

/-- The event of a task that is complete. -/
def completion (spec : Spec) (bytes : Nat) : Event :=
  { kind := .taskComplete, spec, details := .map [("bytes_copied", .int bytes)] }

/-- How the events of a task for a spec, and those of others, go with its end. -/
inductive Ending (spec : Spec) : List Event → Except Failure Outcome → Prop where
  | raised {E : List Event} {e : Failure} (h : Unfinal spec E) : Ending spec E (.error e)
  | stopped {E : List Event} {e : Event} {out : Outcome} (h : Unfinal spec E) (hs : e.spec = spec)
      (hk : e.kind.ends? = some out.status) (hout : out.status ≠ .successful) :
      Ending spec (E ++ [e]) (.ok out)
  | complete {E : List Event} {n : Nat} (h : Unfinal spec E)
      (hrecord : E.countP (tellsRecord spec) = 1) (hbytes : TellsBytes spec E n) :
      Ending spec (E ++ [completion spec n]) (.ok { status := .successful, bytes := n })

/-- Events that say nothing about the end of the task for a spec, its record or its copy. -/
def Aside (spec : Spec) (E : List Event) : Prop :=
  ∀ e ∈ E, e.spec = spec →
    e.kind.ends? = none ∧ e.kind.isRecord = false ∧ e.kind ≠ .dataCopied

section

variable {spec : Spec} {E E' : List Event}

theorem Aside.unfinal (h : Aside spec E) : Unfinal spec E := fun e he hs => (h e he hs).1

theorem Unfinal.append (h : Unfinal spec E) (h' : Unfinal spec E') : Unfinal spec (E ++ E') :=
  fun e he => (List.mem_append.1 he).elim (h e) (h' e)

theorem Aside.countP_tellsRecord (h : Aside spec E) : E.countP (tellsRecord spec) = 0 := by
  refine List.countP_eq_zero.2 fun e he htells => ?_
  obtain ⟨hs, hk⟩ := Bool.and_eq_true_iff.1 htells
  have hnot := (h e he (eq_of_beq hs)).2.1
  rw [hk] at hnot
  cases hnot

theorem Aside.filter_tellsCopy (h : Aside spec E) : E.filter (tellsCopy spec) = [] := by
  refine List.filter_eq_nil_iff.2 fun e he htells => ?_
  obtain ⟨hs, hk⟩ := Bool.and_eq_true_iff.1 htells
  exact (h e he (eq_of_beq hs)).2.2 (eq_of_beq hk)

/-- What is aside may come before. -/
theorem Ending.prepend {r : Except Failure Outcome} (h : Ending spec E r) (h' : Aside spec E') :
    Ending spec (E' ++ E) r := by
  cases h with
  | raised h => exact .raised (h'.unfinal.append h)
  | stopped h hs hk hout =>
    rw [← List.append_assoc]
    exact .stopped (h'.unfinal.append h) hs hk hout
  | complete h hrecord hbytes =>
    rw [← List.append_assoc]
    refine .complete (h'.unfinal.append h) ?_ ?_
    · rw [List.countP_append, h'.countP_tellsRecord, hrecord]
    · unfold TellsBytes
      rw [List.filter_append, h'.filter_tellsCopy]
      exact hbytes

end

theorem Fair.of_subset {T T' : List Exchange} (h : Fair T) (hs : T' ⊆ T) : Fair T' :=
  ⟨fun e a ha => h.heard e a (hs ha), fun a b tags n hn => h.sized a b tags n (hs hn)⟩

/-- A procedure whose events go with its end. -/
def EndsWell (spec : Spec) (p : TaskProgram Outcome) : Prop :=
  ∀ T r, p.Yields T r → Fair T → Ending spec (events T) r

/-- A procedure whose events are aside. -/
def Besides {α : Type} (spec : Spec) (p : TaskProgram α) : Prop :=
  ∀ T r, p.Yields T r → Aside spec (events T)

section

variable {α : Type} {spec : Spec}

theorem EndsWell.after {p : TaskProgram α} {f : α → TaskProgram Outcome} (h : Besides spec p)
    (hf : ∀ a, EndsWell spec (f a)) : EndsWell spec (p.bind f) := by
  intro T r hT hfair
  obtain ⟨e, hp, rfl⟩ | ⟨a, T₁, T₂, rfl, hp, ha⟩ := Program.yields_bind_iff.1 hT
  · exact .raised (h _ _ hp).unfinal
  · rw [events_append]
    exact (hf a _ _ ha (hfair.of_subset (List.subset_append_right _ _))).prepend (h _ _ hp)

theorem Besides.bind {β : Type} {p : TaskProgram α} {f : α → TaskProgram β} (h : Besides spec p)
    (hf : ∀ a, Besides spec (f a)) : Besides spec (p.bind f) := by
  intro T r hT
  obtain ⟨e, hp, -⟩ | ⟨a, T₁, T₂, rfl, hp, ha⟩ := Program.yields_bind_iff.1 hT
  · exact h _ _ hp
  · rw [events_append]
    exact fun e he => (List.mem_append.1 he).elim (h _ _ hp e) (hf a _ _ ha e)

theorem besides_of_silent {p : TaskProgram α} (h : ∀ {T r}, p.Yields T r → T = []) :
    Besides spec p := by
  intro T r hT
  obtain rfl := h hT
  exact nofun

theorem besides_perform {c : Call} (hc : ∀ a, Exchange.event? ⟨c, a⟩ = none) :
    Besides spec (Program.perform c) := by
  intro T r hT
  obtain rfl := Program.yields_perform_iff.1 hT
  rw [events_cons, hc]
  exact nofun

theorem besides_emit {kind : EventKind} {details : List (String × Value)}
    (hends : kind.ends? = none) (hrecord : kind.isRecord = false) (hcopy : kind ≠ .dataCopied) :
    Besides spec (emit spec kind details) := by
  intro T r hT
  obtain rfl := Program.yields_perform_iff.1 hT
  intro e he _
  obtain rfl := List.mem_singleton.1 he
  exact ⟨hends, hrecord, hcopy⟩

/-- A final event that is not a success, and the end that it stands for. -/
theorem endsWell_stop {kind : EventKind} {details : List (String × Value)} {out : Outcome}
    (hk : kind.ends? = some out.status) (hout : out.status ≠ .successful) :
    EndsWell spec ((emit spec kind details).bind fun _ => .done out) := by
  intro T r hT hfair
  obtain ⟨e, rfl, rfl⟩ | ⟨_, T', rfl, hdone⟩ := Program.yields_perform_bind_iff.1 hT
  · cases hfair.heard _ _ List.mem_cons_self
  · obtain ⟨rfl, rfl⟩ := Program.yields_done_iff.1 hdone
    exact .stopped (E := []) nofun rfl hk hout

end

/-! ### How a data step and a task end -/

/-- How the events of a data step go with its end. -/
inductive DataEnding (spec : Spec) : List Event → Except Failure DataResult → Prop where
  | raised {E : List Event} {e : Failure} (h : Unfinal spec E) : DataEnding spec E (.error e)
  | stopped {E : List Event} {e : Event} {out : Outcome} (h : Unfinal spec E) (hs : e.spec = spec)
      (hk : e.kind.ends? = some out.status) (hout : out.status ≠ .successful) :
      DataEnding spec (E ++ [e]) (.ok { outcome := some out })
  | settled {E : List Event} {n : Nat} (h : Unfinal spec E)
      (hrecord : E.countP (tellsRecord spec) = 0) (hbytes : TellsBytes spec E n) :
      DataEnding spec E (.ok { bytes := n })

section

variable {o : DataOptions} {spec : Spec} {T : List Exchange} {r : Except Failure DataResult}

/-- The last exchange of a transcript is an event, and whoever heard it did not raise. -/
theorem Fair.heard_last {kind : EventKind} {details : List (String × Value)}
    {x : Except Failure Unit} (h : Fair (T ++ [.heard kind spec details x])) : x = .ok () :=
  h.heard _ _ (List.mem_append_right _ List.mem_cons_self)

theorem aside_singleton {e : Event} (hends : e.kind.ends? = none)
    (hrecord : e.kind.isRecord = false) (hcopy : e.kind ≠ .dataCopied) : Aside spec [e] := by
  intro e' he _
  obtain rfl := List.mem_singleton.1 he
  exact ⟨hends, hrecord, hcopy⟩

theorem dataEnding_of_aside {E : List Event} (h : Aside spec E) : DataEnding spec E (.ok {}) :=
  .settled (n := 0) h.unfinal h.countP_tellsRecord (.inl ⟨h.filter_tellsCopy, rfl⟩)

theorem dataEnding_of_copied {a b : String} {n : Nat} :
    DataEnding spec [copyReport spec a b n] (.ok { bytes := n }) := by
  refine .settled (fun e he _ => ?_) ?_ (.inr ⟨a, b, ?_⟩)
  · obtain rfl := List.mem_singleton.1 he
    rfl
  · simp [tellsRecord, copyReport, EventKind.isRecord]
  · simp [tellsCopy, copyReport]

theorem DataEnding.prepend {E E' : List Event} (h : DataEnding spec E r) (h' : Aside spec E') :
    DataEnding spec (E' ++ E) r := by
  cases h with
  | raised h => exact .raised (h'.unfinal.append h)
  | stopped h hs hk hout =>
    rw [← List.append_assoc]
    exact .stopped (h'.unfinal.append h) hs hk hout
  | settled h hrecord hbytes =>
    refine .settled (h'.unfinal.append h) ?_ ?_
    · rw [List.countP_append, h'.countP_tellsRecord, hrecord]
    · unfold TellsBytes
      rw [List.filter_append, h'.filter_tellsCopy]
      exact hbytes

theorem dataEnding_of_copyCourse {a b : String} (h : CopyCourse o spec a b T r) (hT : Fair T) :
    DataEnding spec (events T) r := by
  cases h with
  | unknown | unseen _ | broken _ _ => exact .raised nofun
  | upToDate =>
    obtain rfl := Fair.heard_last (T := [_]) hT
    exact dataEnding_of_aside (aside_singleton rfl rfl nofun)
  | disallowed _ =>
    obtain rfl := Fair.heard_last (T := [_]) hT
    exact .stopped (E := []) nofun rfl rfl nofun
  | missing _ =>
    obtain rfl := Fair.heard_last (T := [_, _]) hT
    exact .stopped (E := []) nofun rfl rfl nofun
  | failed _ =>
    obtain rfl := Fair.heard_last (T := [_, _, _]) hT
    exact .stopped (E := []) nofun rfl rfl nofun
  | @copied n _ _ =>
    obtain rfl := Fair.heard_last (T := [_, _, _]) hT
    have hsized : 0 ≤ n :=
      hT.sized a b [o.sourceName, .text spec.database, .text spec.table] n (by simp)
    obtain ⟨n, rfl⟩ := Int.eq_ofNat_of_zero_le hsized
    exact dataEnding_of_copied

theorem aside_of_lookout {a : String} (h : Lookout o spec a T) : Aside spec (events T) := by
  cases h with
  | unset _ => exact nofun
  | mismatch _ => exact aside_singleton rfl rfl nofun

theorem dataEnding_of_course {a b : Option String} (h : DataCourse o spec a b T r) (hT : Fair T) :
    DataEnding spec (events T) r := by
  cases h with
  | nowhere _ => exact dataEnding_of_aside nofun
  | unplaced _ _ _ | unknown _ _ | broken _ _ _ => exact .raised nofun
  | shared =>
    obtain rfl := Fair.heard_last (T := []) hT
    exact dataEnding_of_aside (aside_singleton rfl rfl nofun)
  | unheard _ _ =>
    cases Fair.heard_last (T := [_]) hT
  | moved _ _ =>
    obtain rfl := Fair.heard_last (T := [_, _]) hT
    exact dataEnding_of_aside (aside_singleton rfl rfl nofun)
  | failed _ _ =>
    obtain rfl := Fair.heard_last (T := [_, _]) hT
    exact .stopped (E := []) nofun rfl rfl nofun
  | copies _ hl hc =>
    rw [events_append]
    have hcopy := dataEnding_of_copyCourse hc (hT.of_subset (List.subset_append_right _ _))
    exact hcopy.prepend (aside_of_lookout hl)

end

section

variable {ρ : Type} [Catalogued ρ] [DecidableEq ρ] {o : Setup} {spec : Spec} {T : List Exchange}

omit [Catalogued ρ] [DecidableEq ρ] in
theorem besides_ensureDatabase {name : String} : Besides spec (ensureDatabase o spec name) := by
  refine (besides_perform fun _ => rfl).bind fun model => ?_
  refine (besides_of_silent fun h => (Program.yields_ofExcept_iff.1 h).1).bind fun d => ?_
  refine (besides_perform fun _ => rfl).bind fun made => ?_
  cases made with
  | true => exact besides_emit rfl rfl nofun
  | false => exact besides_of_silent fun h => (Program.yields_done_iff.1 h).1

theorem besides_write {r : Catalog.Request} : Besides spec (write r) :=
  (besides_perform fun _ => rfl).bind fun _ =>
    besides_of_silent fun h => (Program.yields_done_iff.1 h).1

/-- What publishing tells: things aside, and last what became of the record, if it didn't fail. -/
inductive Publication (spec : Spec) : List Event → Except Failure Unit → Prop where
  | raised {E : List Event} {e : Failure} (h : Aside spec E) : Publication spec E (.error e)
  | told {E : List Event} {k : EventKind} (h : Aside spec E) (hk : k.isRecord = true)
      (hends : k.ends? = none) (hcopy : k ≠ .dataCopied) :
      Publication spec (E ++ [{ kind := k, spec, details := .map [] }]) (.ok ())

theorem publication_of_bind {p : TaskProgram Unit} {k : EventKind} {r : Except Failure Unit}
    (h : (p.bind fun _ => emit spec k []).Yields T r) (hT : Fair T) (hp : Besides spec p)
    (hk : k.isRecord = true) (hends : k.ends? = none) (hcopy : k ≠ .dataCopied) :
    Publication spec (events T) r := by
  obtain ⟨e, hyields, rfl⟩ | ⟨_, T₁, T₂, rfl, hyields, hemit⟩ := Program.yields_bind_iff.1 h
  · exact .raised (hp _ _ hyields)
  · obtain rfl := Program.yields_perform_iff.1 hemit
    obtain rfl := hT.heard_last
    rw [events_append]
    exact .told (hp _ _ hyields) hk hends hcopy

theorem publication_of_yields {existing : Option ρ} {x : ρ} {r : Except Failure Unit}
    (h : (publish o spec existing x).Yields T r) (hT : Fair T) : Publication spec (events T) r := by
  unfold publish at h
  cases hdecide : Action.decide existing x with
  | create =>
    rw [hdecide] at h
    simp only [Program.bind_eq_bind, ← Program.bind_assoc] at h
    exact publication_of_bind h hT (besides_ensureDatabase.bind fun _ => besides_write) rfl rfl
      nofun
  | alter =>
    rw [hdecide] at h
    exact publication_of_bind h hT besides_write rfl rfl nofun
  | keep =>
    rw [hdecide] at h
    exact publication_of_bind (p := .done ()) h hT
      (besides_of_silent fun h => (Program.yields_done_iff.1 h).1) rfl rfl nofun

theorem Publication.unfinal {E : List Event} {r : Except Failure Unit} (h : Publication spec E r) :
    Unfinal spec E := by
  cases h with
  | raised h => exact h.unfinal
  | told h _ hends _ =>
    refine h.unfinal.append fun e he _ => ?_
    obtain rfl := List.mem_singleton.1 he
    exact hends

theorem Publication.filter_tellsCopy {E : List Event} {r : Except Failure Unit}
    (h : Publication spec E r) : E.filter (tellsCopy spec) = [] := by
  cases h with
  | raised h => exact h.filter_tellsCopy
  | told h _ _ hcopy => simp [h.filter_tellsCopy, tellsCopy, hcopy]

theorem Publication.countP_tellsRecord {E : List Event} (h : Publication spec E (.ok ())) :
    E.countP (tellsRecord spec) = 1 := by
  cases h with
  | told h hk _ _ => simp [h.countP_tellsRecord, tellsRecord, hk]

/-- Writing the record, and completing, after events that tell of the data. -/
theorem ending_finish {i : Item ρ} {existing : Option ρ} {x : ρ} {n : Nat} {E : List Event}
    {r : Except Failure Outcome} (h : (i.finish o existing x n).Yields T r) (hT : Fair T)
    (hE : Unfinal i.spec E) (hrecord : E.countP (tellsRecord i.spec) = 0)
    (hbytes : TellsBytes i.spec E n) : Ending i.spec (E ++ events T) r := by
  obtain ⟨e, hpublish, rfl⟩ | ⟨_, T₁, T₂, rfl, hpublish, hrest⟩ := Program.yields_bind_iff.1 h
  · exact .raised (hE.append (publication_of_yields hpublish hT).unfinal)
  have hpub := publication_of_yields hpublish (hT.of_subset (List.subset_append_left _ _))
  obtain ⟨e, rfl, -⟩ | ⟨_, T₃, rfl, hend⟩ := Program.yields_perform_bind_iff.1 hrest
  · cases hT.heard _ _ (List.mem_append_right _ List.mem_cons_self)
  obtain ⟨rfl, rfl⟩ := Program.yields_ofExcept_iff.1 hend
  rw [events_append, ← List.append_assoc]
  refine .complete (hE.append hpub.unfinal) ?_ ?_
  · rw [List.countP_append, hrecord, hpub.countP_tellsRecord]
  · unfold TellsBytes
    rw [List.filter_append, hpub.filter_tellsCopy, List.append_nil]
    exact hbytes

theorem endsWell_carry {i : Item ρ} {existing : Option ρ} {x : ρ} :
    EndsWell i.spec (i.carry o existing x) := by
  intro T r h hT
  unfold Item.carry at h
  cases howns : i.ownsData with
  | false =>
    simp only [howns] at h
    exact ending_finish (E := []) h hT nofun rfl (.inl ⟨rfl, rfl⟩)
  | true =>
    simp only [howns, if_true] at h
    obtain ⟨e, hdata, rfl⟩ | ⟨d, T₁, T₂, rfl, hdata, hrest⟩ := Program.yields_bind_iff.1 h
    · have hcourse := dataEnding_of_course (course_of_yields hdata) hT
      generalize events T = E at hcourse ⊢
      cases hcourse with
      | raised hE => exact .raised hE
    · have hT₁ : Fair T₁ := hT.of_subset (List.subset_append_left _ _)
      have hT₂ : Fair T₂ := hT.of_subset (List.subset_append_right _ _)
      have hcourse := dataEnding_of_course (course_of_yields hdata) hT₁
      rw [events_append]
      generalize events T₁ = E at hcourse ⊢
      cases hcourse with
      | stopped hE hs hk hout =>
        obtain ⟨rfl, rfl⟩ := Program.yields_done_iff.1 hrest
        rw [events_nil, List.append_nil]
        exact .stopped hE hs hk hout
      | settled hE hrecord hbytes => exact ending_finish hrest hT₂ hE hrecord hbytes

theorem endsWell_update {i : Item ρ} {existing : Option ρ} :
    EndsWell i.spec (update o i.spec i.ownsData i.record existing) := by
  rw [Item.update_eq]
  refine EndsWell.after (besides_of_silent nil_of_yields_expect) fun x => ?_
  cases existing with
  | none => exact endsWell_carry
  | some e =>
    refine EndsWell.after (besides_emit rfl rfl nofun) fun _ => ?_
    exact EndsWell.after (besides_of_silent nil_of_yields_checkConflict) fun _ => endsWell_carry

theorem endsWell_sourceMissing {object : String} : EndsWell spec (sourceMissing spec object) :=
  endsWell_stop rfl nofun

theorem endsWell_table : EndsWell spec (table o spec) := by
  refine EndsWell.after (besides_perform fun _ => rfl) fun t => ?_
  cases t with
  | none => exact endsWell_sourceMissing
  | some t =>
    exact EndsWell.after (besides_perform fun _ => rfl) fun _ =>
      endsWell_update (i := .ofTable spec t)

theorem endsWell_updatePartition {p : PartitionRecord} :
    EndsWell spec (updatePartition o spec p) :=
  EndsWell.after (besides_perform fun _ => rfl) fun _ => endsWell_update (i := .ofPartition spec p)

/-- The task of the table is not the task of the partition. -/
theorem besides_table (h : spec.isPartition = true) : Besides spec (table o spec.tableSpec) := by
  intro T r hT e he hs
  have hown : e.spec = spec.tableSpec := (accounts_table T r hT).own e he
  rw [← hs, hown] at h
  cases h

theorem endsWell_partition (h : spec.isPartition = true) : EndsWell spec (partition o spec) := by
  refine EndsWell.after (besides_perform fun _ => rfl) fun p => ?_
  cases p with
  | none => exact endsWell_sourceMissing
  | some p =>
    refine EndsWell.after (besides_perform fun _ => rfl) fun t => ?_
    refine EndsWell.after (besides_perform fun _ => rfl) fun existing => ?_
    cases t with
    | none => exact endsWell_sourceMissing
    | some t =>
      cases hreason : cascadeReason? t existing with
      | none =>
        simp only [hreason]
        exact endsWell_updatePartition
      | some reason =>
        simp only [hreason]
        refine EndsWell.after (besides_emit rfl rfl nofun) fun _ => ?_
        refine EndsWell.after (besides_table h) fun out => ?_
        cases hout : out.isSuccessful with
        | true => exact endsWell_updatePartition
        | false => exact endsWell_stop rfl nofun

end

/-! ### The parts of a partition task -/

/-- A transcript of the task for a spec in three parts. The middle one is empty or that of the task
for the table, whose changes are reported under its own spec. -/
structure Parts (o : Setup) (spec : Spec) (T T₁ T₂ T₃ : List Exchange) : Prop where
  eq : T = T₁ ++ T₂ ++ T₃
  table : T₂ = [] ∨ ∃ r, (Task.table o spec.tableSpec).Yields T₂ r
  reports : reports T = (changes T₁).map (fun k => (spec, k)) ++
    (changes T₂).map (fun k => (spec.tableSpec, k)) ++ (changes T₃).map fun k => (spec, k)

section

variable {o : Setup} {spec : Spec} {T : List Exchange}

theorem parts_of_accounted (h : Accounted spec [] T) : Parts o spec T T [] [] :=
  ⟨by simp, .inl rfl, by simp [h.reports]⟩

theorem Parts.cons {x : Exchange} {T₁ T₂ T₃ : List Exchange} (h : Parts o spec T T₁ T₂ T₃)
    (hx : Accounted spec [] [x]) : Parts o spec (x :: T) (x :: T₁) T₂ T₃ where
  eq := by rw [h.eq]; rfl
  table := h.table
  reports := by
    have hcons : Task.reports (x :: T) = Task.reports [x] ++ Task.reports T :=
      reports_append [x] T
    have hchanges : changes (x :: T₁) = changes [x] ++ changes T₁ := changes_append [x] T₁
    rw [hcons, h.reports, hx.reports, hchanges]
    simp

/-- A partition task falls into such parts. -/
def Parted (o : Setup) (spec : Spec) (p : TaskProgram Outcome) : Prop :=
  ∀ T r, p.Yields T r → ∃ T₁ T₂ T₃, Parts o spec T T₁ T₂ T₃

theorem parted_of_accounts {p : TaskProgram Outcome} (h : Accounts spec [] p) : Parted o spec p :=
  fun T r hT => ⟨T, [], [], parts_of_accounted (h T r hT)⟩

/-- A call that changes nothing, before the parts. -/
theorem Parted.after {c : Call} {f : c.Answer → TaskProgram Outcome}
    (hc : ∀ a, Accounted spec [] [⟨c, a⟩]) (hf : ∀ a, Parted o spec (f a)) :
    Parted o spec ((Program.perform c).bind f) := by
  intro T r hT
  obtain ⟨e, rfl, -⟩ | ⟨a, T', rfl, ha⟩ := Program.yields_perform_bind_iff.1 hT
  · exact ⟨_, [], [], parts_of_accounted (hc _)⟩
  · obtain ⟨T₁, T₂, T₃, hparts⟩ := hf a _ _ ha
    exact ⟨_, T₂, T₃, hparts.cons (hc _)⟩

/-- The task of the table, and what the partition task does after it. -/
theorem parted_table_bind {f : Outcome → TaskProgram Outcome} (hf : ∀ a, Accounts spec [] (f a)) :
    Parted o spec ((table o spec.tableSpec).bind f) := by
  intro T r hT
  obtain ⟨e, htable, -⟩ | ⟨a, T₁, T₂, rfl, htable, ha⟩ := Program.yields_bind_iff.1 hT
  · have htells := (accounts_table T _ htable).reports
    exact ⟨[], T, [], by simp, .inr ⟨_, htable⟩, by simp [htells]⟩
  · have htells := (accounts_table T₁ _ htable).reports
    have hrest := (hf a T₂ r ha).reports
    exact ⟨[], T₁, T₂, by simp, .inr ⟨_, htable⟩, by simp [htells, hrest]⟩

theorem parted_partition : Parted o spec (partition o spec) := by
  refine Parted.after (fun _ => .cons rfl accounted_nil) fun p => ?_
  cases p with
  | none => exact parted_of_accounts accounts_sourceMissing
  | some p =>
    refine Parted.after (fun _ => .cons rfl accounted_nil) fun t => ?_
    refine Parted.after (fun _ => .cons rfl accounted_nil) fun existing => ?_
    cases t with
    | none => exact parted_of_accounts accounts_sourceMissing
    | some t =>
      cases hreason : cascadeReason? t existing with
      | none =>
        simp only [hreason]
        exact parted_of_accounts accounts_updatePartition
      | some reason =>
        simp only [hreason]
        refine Parted.after (fun _ => accounted_nil.heard rfl) fun _ => ?_
        refine parted_table_bind fun out => ?_
        cases hout : out.isSuccessful with
        | true => exact accounts_updatePartition
        | false => exact accounts_emit_bind rfl accounts_done

end

end Task

/-! ### The story of a task -/

namespace ReplicationTask

open CatalogReplication.Task

/-- Whether a task can be had. -/
def IsBuilt (t : ReplicationTask) : Prop :=
  (∃ spec hint, forTable spec hint = .ok t) ∨ ∃ spec, forPartition spec = .ok t

/-- What the events of a task tell, in a transcript that ended like this. -/
structure Story (o : Setup) (t : ReplicationTask) (T : List Exchange) (r : Except Failure Outcome) :
    Prop where
  /-- The events report the changes of the destination in order, each with the spec of the task that
  made it. -/
  parts : ∃ T₁ T₂ T₃, Parts o t.spec T T₁ T₂ T₃
  /-- How the task ended is told by its last event. -/
  status_iff : ∀ status, (∃ out, r = .ok out ∧ out.status = status) ↔
    ∃ e, (events T).getLast? = some e ∧ e.spec = t.spec ∧ e.kind.ends? = some status
  successful_iff : (∃ out, r = .ok out ∧ out.status = .successful) ↔
    ∃ e ∈ events T, e.spec = t.spec ∧ e.kind = .taskComplete
  /-- A task that is complete says so once, at the end, after it told what became of the record, and
  how many bytes it copied. -/
  complete : ∀ out, r = .ok out → out.status = .successful →
    ∃ E, events T = E ++ [completion t.spec out.bytes] ∧
      (∀ e ∈ E, e.spec = t.spec → e.kind ≠ .taskComplete) ∧
        E.countP (tellsRecord t.spec) = 1 ∧ TellsBytes t.spec E out.bytes

end ReplicationTask

namespace Task

variable {spec : Spec} {E : List Event} {r : Except Failure Outcome}

theorem Unfinal.ne_taskComplete (h : Unfinal spec E) {e : Event} (he : e ∈ E)
    (hs : e.spec = spec) : e.kind ≠ .taskComplete := by
  intro hk
  have hends := h e he hs
  rw [hk] at hends
  cases hends

theorem Ending.status_iff (h : Ending spec E r) (status : RunStatus) :
    (∃ out, r = .ok out ∧ out.status = status) ↔
      ∃ e, E.getLast? = some e ∧ e.spec = spec ∧ e.kind.ends? = some status := by
  cases h with
  | raised h =>
    refine iff_of_false nofun ?_
    rintro ⟨e, he, hs, hk⟩
    rw [h e (List.mem_of_getLast? he) hs] at hk
    cases hk
  | stopped h hs hk _ => simp [hs, hk]
  | complete h _ _ => simp [completion, EventKind.ends?]

theorem Ending.successful_iff (h : Ending spec E r) :
    (∃ out, r = .ok out ∧ out.status = .successful) ↔
      ∃ e ∈ E, e.spec = spec ∧ e.kind = .taskComplete := by
  cases h with
  | raised h =>
    refine iff_of_false nofun ?_
    rintro ⟨e, he, hs, hk⟩
    exact h.ne_taskComplete he hs hk
  | @stopped _ e' _ h hs' hk' hout =>
    refine iff_of_false (by simpa using hout) ?_
    rintro ⟨e, he, hs, hk⟩
    rcases List.mem_append.1 he with he | he
    · exact h.ne_taskComplete he hs hk
    · obtain rfl := List.mem_singleton.1 he
      rw [hk] at hk'
      exact hout (Option.some.inj hk').symm
  | complete h _ _ =>
    exact iff_of_true ⟨_, rfl, rfl⟩ ⟨_, List.mem_append_right _ List.mem_cons_self, rfl, rfl⟩

theorem Ending.of_successful {out : Outcome} (h : Ending spec E (.ok out))
    (hout : out.status = .successful) : ∃ E', E = E' ++ [completion spec out.bytes] ∧
      (∀ e ∈ E', e.spec = spec → e.kind ≠ .taskComplete) ∧
        E'.countP (tellsRecord spec) = 1 ∧ TellsBytes spec E' out.bytes := by
  cases h with
  | stopped _ _ _ hnot => exact absurd hout hnot
  | complete h hrecord hbytes =>
    exact ⟨_, rfl, fun e he hs => h.ne_taskComplete he hs, hrecord, hbytes⟩

end Task

namespace ReplicationTask

open CatalogReplication.Task

theorem isPartition_of_isBuilt {spec : Spec} (h : (partition spec).IsBuilt) :
    spec.isPartition = true := by
  obtain ⟨spec', hint, hbuilt⟩ | ⟨spec', hbuilt⟩ := h
  · unfold forTable at hbuilt
    split at hbuilt <;> cases hbuilt
  · unfold forPartition at hbuilt
    split at hbuilt
    · cases hbuilt
      assumption
    · cases hbuilt

/-- **The events of a task tell its whole story**, whatever its partners answer or raise, if no
hearer of its events raises and no copy answers with a negative number. -/
theorem program_tells {o : Setup} {t : ReplicationTask} {T : List Exchange}
    {r : Except Failure Outcome} (ht : t.IsBuilt) (h : (t.program o).Yields T r) (hT : Fair T) :
    t.Story o T r := by
  have hending : Ending t.spec (events T) r := by
    cases t with
    | table spec _ => exact endsWell_table T r h hT
    | partition spec => exact endsWell_partition (isPartition_of_isBuilt ht) T r h hT
  have hparts : ∃ T₁ T₂ T₃, Parts o t.spec T T₁ T₂ T₃ := by
    cases t with
    | table spec _ => exact parted_of_accounts accounts_table T r h
    | partition spec => exact parted_partition T r h
  refine ⟨hparts, hending.status_iff, hending.successful_iff, ?_⟩
  rintro out rfl hout
  exact hending.of_successful hout

/-- The transcript of the sample task, which comes to its table first. -/
def sampleTranscript : List Exchange :=
  (Sample.task.program Sample.setup).transcript Sample.partners.serve (fun _ m => m) Sample.start

theorem fair_sampleTranscript : Fair sampleTranscript where
  heard e a ha := by
    obtain ⟨m, hm⟩ := Program.answer_of_mem_transcript ha
    exact hm
  sized a b tags n hn := by
    obtain ⟨m, hm⟩ := Program.answer_of_mem_transcript hn
    have hserve : Except.ok n = (Transfer.serveShelf (.copy a b tags) m.world.files).1 := hm
    unfold Transfer.serveShelf at hserve
    cases hfiles : m.world.files a with
    | none =>
      simp only [hfiles] at hserve
      cases hserve
    | some files =>
      simp only [hfiles] at hserve
      cases hserve
      exact Int.natCast_nonneg _

/-- A partition whose table comes first and whose data is copied. -/
theorem program_tells_cascade :
    Sample.task.Story Sample.setup sampleTranscript (.ok { status := .successful, bytes := 3 }) :=
  program_tells (.inr ⟨Sample.spec, rfl⟩)
    (Program.yields_run Sample.partners.serve (fun _ m => m) (Sample.task.program Sample.setup)
      Sample.start) fair_sampleTranscript

example : (events sampleTranscript).map (fun e => e.kind) = [.tableCascade, .databaseCreated,
    .metadataCreated, .taskComplete, .stagedDataMismatch, .dataCopied, .metadataCreated,
    .taskComplete] := rfl

end ReplicationTask

end CatalogReplication
