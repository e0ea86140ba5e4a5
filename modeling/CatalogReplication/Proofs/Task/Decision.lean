import CatalogReplication.Proofs.Task.Consistency
import CatalogReplication.Proofs.Transcript

/-!
# What a data step decides

A data step looks at locations, options and the answers of its carrier, and does one of a few
things. `DataCourse` lists them all, with the calls that were made and the answers that led there:
whatever whoever carries data and whoever hears events answer, a data step takes one of these
courses (`course_of_yields`). What it decided is read off the transcript (`Decided`).
-/

namespace CatalogReplication

/-- Whether a failure is that of a transfer. -/
def Failure.isTransfer : Failure → Bool
  | .transfer _ => true
  | _ => false

namespace Task

open TaskProgram

/-- A call of a task with the answer that it got. -/
abbrev Exchange := Program.Exchange Call Call.Answer Failure

/-- A copy or a move. -/
def Call.isCarriage : Call → Bool
  | .transfer (.copy _ _ _) | .transfer (.move _ _) => true
  | _ => false

namespace Exchange

abbrev equal (a b : String) (x : Except Failure Bool) : Exchange := ⟨.transfer (.equal a b), x⟩

abbrev present (a : String) (x : Except Failure Bool) : Exchange := ⟨.transfer (.exists a), x⟩

abbrev copy (a b : String) (tags : List Value) (x : Except Failure Int) : Exchange :=
  ⟨.transfer (.copy a b tags), x⟩

abbrev move (a b : String) (x : Except Failure Unit) : Exchange := ⟨.transfer (.move a b), x⟩

abbrev heard (kind : EventKind) (spec : Spec) (details : List (String × Value))
    (x : Except Failure Unit) : Exchange := ⟨.hear { kind, spec, details := .map details }, x⟩

/-- The error in an answer, if it is one. -/
def errorOf? {α : Type} : Except Failure α → Option Failure
  | .error e => some e
  | .ok _ => none

@[simp] theorem errorOf?_ok {α : Type} {a : α} : errorOf? (.ok a) = none := rfl

@[simp] theorem errorOf?_error {α : Type} {e : Failure} :
    errorOf? (.error e : Except Failure α) = some e := rfl

@[simp] theorem errorOf?_eq_some_iff {α : Type} {x : Except Failure α} {e : Failure} :
    errorOf? x = some e ↔ x = .error e := by
  cases x <;> simp

/-- A copy or a move that failed as transfers do. -/
def isFailedCarriage (x : Exchange) : Bool :=
  x.call.isCarriage && (errorOf? x.answer).any Failure.isTransfer

/-- The error of a call, unless it is a copy or a move that failed as transfers do. -/
def raised? (x : Exchange) : Option Failure :=
  if x.isFailedCarriage then none else errorOf? x.answer

end Exchange

/-! ### The courses of a data step -/

section

variable (o : DataOptions) (spec : Spec)

/-- How a data step copies, unless the destination matches already. -/
inductive CopyCourse (a b : String) : List Exchange → Except Failure DataResult → Prop where
  | unknown {e : Failure} : CopyCourse a b [.equal a b (.error e)] (.error e)
  | upToDate {h : Except Failure Unit} :
      CopyCourse a b [.equal a b (.ok true),
        .heard .dataUpToDate spec [("src", .text a), ("dest", .text b)] h] (h.map fun _ => {})
  | disallowed {h : Except Failure Unit} (ho : o.allowCopy = false) :
      CopyCourse a b [.equal a b (.ok false),
        .heard .dataCopyDisallowed spec [("src", .text a), ("dest", .text b)] h]
        (h.map fun _ => { outcome := some .notCompletable })
  | unseen {e : Failure} (ho : o.allowCopy = true) :
      CopyCourse a b [.equal a b (.ok false), .present a (.error e)] (.error e)
  | missing {h : Except Failure Unit} (ho : o.allowCopy = true) :
      CopyCourse a b [.equal a b (.ok false), .present a (.ok false),
        .heard .sourcePathMissing spec [("src", .text a)] h]
        (h.map fun _ => { outcome := some .notCompletable })
  | copied {n : Int} {h : Except Failure Unit} (ho : o.allowCopy = true) :
      CopyCourse a b [.equal a b (.ok false), .present a (.ok true),
        .copy a b [o.sourceName, .text spec.database, .text spec.table] (.ok n),
        .heard .dataCopied spec [("src", .text a), ("dest", .text b), ("bytes_copied", .int n)] h]
        (h.map fun _ => { bytes := n })
  | failed {e : Transfer.Error} {h : Except Failure Unit} (ho : o.allowCopy = true) :
      CopyCourse a b [.equal a b (.ok false), .present a (.ok true),
        .copy a b [o.sourceName, .text spec.database, .text spec.table] (.error (.transfer e)),
        .heard .dataCopyFailed spec [("src", .text a), ("error", .text e.message)] h]
        (h.map fun _ => { outcome := some .failed })
  | broken {e : Failure} (ho : o.allowCopy = true) (he : e.isTransfer = false) :
      CopyCourse a b [.equal a b (.ok false), .present a (.ok true),
        .copy a b [o.sourceName, .text spec.database, .text spec.table] (.error e)] (.error e)

/-- Where a copy of a location may be staged. -/
structure StagedAt (a staged : String) : Prop where
  hasRoot : o.stagingRoot.isNull = false
  path : stagedPath o.stagingRoot (.text a) = .ok staged

/-- What goes before copying: nothing, or a look at what is staged. -/
inductive Lookout (a : String) : List Exchange → Prop where
  | unset (h : o.stagingRoot.isNull = true) : Lookout a []
  | mismatch {staged : String} (hs : StagedAt o a staged) :
      Lookout a [.equal staged a (.ok false),
        .heard .stagedDataMismatch spec [("staged", .text staged), ("src", .text a)] (.ok ())]

/-- How a data step goes. -/
inductive DataCourse : Option String → Option String → List Exchange →
    Except Failure DataResult → Prop where
  | nowhere {a b : Option String} (h : a = none ∨ b = none) : DataCourse a b [] (.ok {})
  | shared {a : String} {h : Except Failure Unit} :
      DataCourse (some a) (some a) [.heard .dataLocationShared spec [("location", .text a)] h]
        (h.map fun _ => {})
  | unplaced {a b : String} {e : Failure} (hne : a ≠ b) (hroot : o.stagingRoot.isNull = false)
      (hpath : stagedPath o.stagingRoot (.text a) = .error e) :
      DataCourse (some a) (some b) [] (.error e)
  | unknown {a b staged : String} {e : Failure} (hne : a ≠ b) (hs : StagedAt o a staged) :
      DataCourse (some a) (some b) [.equal staged a (.error e)] (.error e)
  | unheard {a b staged : String} {e : Failure} (hne : a ≠ b) (hs : StagedAt o a staged) :
      DataCourse (some a) (some b) [.equal staged a (.ok false),
        .heard .stagedDataMismatch spec [("staged", .text staged), ("src", .text a)] (.error e)]
        (.error e)
  | moved {a b staged : String} {h : Except Failure Unit} (hne : a ≠ b)
      (hs : StagedAt o a staged) :
      DataCourse (some a) (some b) [.equal staged a (.ok true), .move staged b (.ok ()),
        .heard .stagedDataMoved spec [("src", .text staged), ("dest", .text b)] h]
        (h.map fun _ => {})
  | failed {a b staged : String} {e : Transfer.Error} {h : Except Failure Unit} (hne : a ≠ b)
      (hs : StagedAt o a staged) :
      DataCourse (some a) (some b) [.equal staged a (.ok true),
        .move staged b (.error (.transfer e)),
        .heard .dataCopyFailed spec [("src", .text staged), ("error", .text e.message)] h]
        (h.map fun _ => { outcome := some .failed })
  | broken {a b staged : String} {e : Failure} (hne : a ≠ b) (hs : StagedAt o a staged)
      (he : e.isTransfer = false) :
      DataCourse (some a) (some b) [.equal staged a (.ok true), .move staged b (.error e)]
        (.error e)
  | copies {a b : String} {T₁ T₂ : List Exchange} {r : Except Failure DataResult} (hne : a ≠ b)
      (hl : Lookout o spec a T₁) (hc : CopyCourse o spec a b T₂ r) :
      DataCourse (some a) (some b) (T₁ ++ T₂) r

end

variable {o : DataOptions} {spec : Spec} {T : List Exchange} {r : Except Failure DataResult}

/-- An event and then the end of a procedure. -/
theorem yields_emit_done_iff {α : Type} {kind : EventKind} {details : List (String × Value)}
    {d : α} {x : Except Failure α} :
    ((emit spec kind details).bind fun _ => .done d).Yields T x ↔
      ∃ h, T = [.heard kind spec details h] ∧ x = h.map fun _ => d := by
  unfold emit
  rw [Program.yields_perform_bind_iff]
  constructor
  · rintro (⟨e, rfl, rfl⟩ | ⟨_, T', rfl, hdone⟩)
    · exact ⟨.error e, rfl, rfl⟩
    · obtain ⟨rfl, rfl⟩ := Program.yields_done_iff.1 hdone
      exact ⟨.ok (), rfl, rfl⟩
  · rintro ⟨_ | _, rfl, rfl⟩
    · exact .inl ⟨_, rfl, rfl⟩
    · exact .inr ⟨_, [], rfl, .done d⟩

/-- A copy or a move, and what comes of it. -/
theorem yields_tryTransfer_bind {α : Type} {q : Transfer.Request}
    {f : Except Transfer.Error q.Answer → TaskProgram α} {x : Except Failure α}
    (h : ((tryTransfer q).bind f).Yields T x) :
    (∃ a T', T = ⟨.transfer q, .ok a⟩ :: T' ∧ (f (.ok a)).Yields T' x) ∨
      (∃ e T', T = ⟨.transfer q, .error (.transfer e)⟩ :: T' ∧ (f (.error e)).Yields T' x) ∨
        ∃ e : Failure, e.isTransfer = false ∧ T = [⟨.transfer q, .error e⟩] ∧ x = .error e := by
  obtain ⟨answer, T', rfl, hnext⟩ := Program.yields_call_iff.1 h
  cases answer with
  | ok a => exact .inl ⟨a, T', rfl, hnext⟩
  | error e =>
    cases e with
    | transfer e => exact .inr (.inl ⟨e, T', rfl, hnext⟩)
    | _ =>
      obtain ⟨rfl, rfl⟩ := Program.yields_fail_iff.1 hnext
      exact .inr (.inr ⟨_, rfl, rfl, rfl⟩)

theorem copyCourse_of_yields {a b : String} (h : (copyData o spec a b).Yields T r) :
    CopyCourse o spec a b T r := by
  obtain ⟨e, rfl, rfl⟩ | ⟨same, T₁, rfl, h₁⟩ := Program.yields_perform_bind_iff.1 h
  · exact .unknown
  cases same with
  | true =>
    obtain ⟨x, rfl, rfl⟩ := yields_emit_done_iff.1 h₁
    exact .upToDate
  | false =>
    cases hallow : o.allowCopy with
    | false =>
      simp only [hallow] at h₁
      obtain ⟨x, rfl, rfl⟩ := yields_emit_done_iff.1 h₁
      exact .disallowed hallow
    | true =>
      simp only [hallow] at h₁
      obtain ⟨e, rfl, rfl⟩ | ⟨present, T₂, rfl, h₂⟩ := Program.yields_perform_bind_iff.1 h₁
      · exact .unseen hallow
      cases present with
      | false =>
        obtain ⟨x, rfl, rfl⟩ := yields_emit_done_iff.1 h₂
        exact .missing hallow
      | true =>
        obtain ⟨n, T₃, rfl, h₃⟩ | ⟨e, T₃, rfl, h₃⟩ | ⟨e, he, rfl, rfl⟩ :=
          yields_tryTransfer_bind h₂
        · obtain ⟨x, rfl, rfl⟩ := yields_emit_done_iff.1 h₃
          exact .copied hallow
        · obtain ⟨x, rfl, rfl⟩ := yields_emit_done_iff.1 h₃
          exact .failed hallow
        · exact .broken hallow he

theorem dataCourse_of_locations {a b : String} (hne : a ≠ b)
    (h : (reconcileLocations o spec a b).Yields T r) :
    DataCourse o spec (some a) (some b) T r := by
  unfold reconcileLocations at h
  cases hroot : o.stagingRoot.isNull with
  | true =>
    rw [if_pos hroot] at h
    have hcourse := DataCourse.copies hne (.unset hroot) (copyCourse_of_yields h)
    exact hcourse
  | false =>
    rw [if_neg (by simp [hroot])] at h
    cases hpath : stagedPath o.stagingRoot (.text a) with
    | error e =>
      rw [hpath] at h
      obtain ⟨rfl, rfl⟩ := Program.yields_fail_iff.1 h
      exact .unplaced hne hroot hpath
    | ok staged =>
      have hs : StagedAt o a staged := ⟨hroot, hpath⟩
      rw [hpath] at h
      obtain ⟨e, rfl, rfl⟩ | ⟨same, T₁, rfl, h₁⟩ := Program.yields_perform_bind_iff.1 h
      · exact .unknown hne hs
      cases same with
      | true =>
        obtain ⟨_, T₂, rfl, h₂⟩ | ⟨e, T₂, rfl, h₂⟩ | ⟨e, he, rfl, rfl⟩ :=
          yields_tryTransfer_bind h₁
        · obtain ⟨x, rfl, rfl⟩ := yields_emit_done_iff.1 h₂
          exact .moved hne hs
        · obtain ⟨x, rfl, rfl⟩ := yields_emit_done_iff.1 h₂
          exact .failed hne hs
        · exact .broken hne hs he
      | false =>
        obtain ⟨e, rfl, rfl⟩ | ⟨_, T₂, rfl, h₂⟩ := Program.yields_perform_bind_iff.1 h₁
        · exact .unheard hne hs
        · have hcourse := DataCourse.copies hne (.mismatch hs) (copyCourse_of_yields h₂)
          exact hcourse

/-- **The courses of a data step**, whatever the answers are. -/
theorem course_of_yields {a b : Option String} (h : (reconcileData o spec a b).Yields T r) :
    DataCourse o spec a b T r := by
  unfold reconcileData at h
  cases a with
  | none =>
    obtain ⟨rfl, rfl⟩ := Program.yields_done_iff.1 h
    exact .nowhere (.inl rfl)
  | some a =>
    cases b with
    | none =>
      obtain ⟨rfl, rfl⟩ := Program.yields_done_iff.1 h
      exact .nowhere (.inr rfl)
    | some b =>
      by_cases hab : a = b
      · subst hab
        simp only [if_true] at h
        obtain ⟨x, rfl, rfl⟩ := yields_emit_done_iff.1 h
        exact .shared
      · simp only [if_neg hab] at h
        exact dataCourse_of_locations hab h

/-! ### What was decided -/

@[simp] theorem map_const_eq_ok_iff {x : Except Failure Unit} {d d' : DataResult} :
    (x.map fun _ => d) = .ok d' ↔ x = .ok () ∧ d' = d := by
  cases x <;> simp [Except.map, eq_comm]

@[simp] theorem map_const_eq_error_iff {x : Except Failure Unit} {d : DataResult} {e : Failure} :
    (x.map fun _ => d) = .error e ↔ x = .error e := by
  cases x <;> simp [Except.map]

/-- Nothing that matches the tree at a location is staged, as far as the answers say. -/
def NothingStaged (o : DataOptions) (a : String) (T : List Exchange) : Prop :=
  o.stagingRoot.isNull = true ∨
    ∃ staged, StagedAt o a staged ∧ Exchange.equal staged a (.ok false) ∈ T

/-- The answers ask for a copy: the locations are different, nothing that matches is staged, and the
trees don't agree. -/
structure NeedsCopy (o : DataOptions) (a b : String) (T : List Exchange) : Prop where
  different : a ≠ b
  nothingStaged : NothingStaged o a T
  disagree : Exchange.equal a b (.ok false) ∈ T

theorem Lookout.nothingStaged {a : String} {T₁ : List Exchange} (h : Lookout o spec a T₁)
    (hT : T₁ ⊆ T) : NothingStaged o a T := by
  cases h with
  | unset h => exact .inl h
  | mismatch hs => exact .inr ⟨_, hs, hT List.mem_cons_self⟩

/-- Where the source is copied, it was seen to be different and to be there. -/
theorem CopyCourse.of_copy {a b s d : String} {tags : List Value} {x : Except Failure Int}
    (h : CopyCourse o spec a b T r) (hx : .copy s d tags x ∈ T) :
    s = a ∧ d = b ∧ tags = [o.sourceName, .text spec.database, .text spec.table] ∧
      o.allowCopy = true ∧
        ∃ T₂, T = [.equal a b (.ok false), .present a (.ok true)] ++ .copy s d tags x :: T₂ := by
  cases h <;> simp at hx
  case copied ho | failed ho | broken ho _ =>
    obtain ⟨⟨rfl, rfl, rfl⟩, rfl⟩ := hx
    exact ⟨rfl, rfl, rfl, ho, _, rfl⟩

section

variable {a b : Option String}

theorem DataCourse.carries_once (h : DataCourse o spec a b T r) :
    T.countP (fun x => x.call.isCarriage) ≤ 1 := by
  cases h with
  | copies hne hl hc => cases hl <;> cases hc <;> simp [Call.isCarriage]
  | _ => simp [Call.isCarriage]

theorem DataCourse.carries_between (h : DataCourse o spec a b T r)
    (hab : a = none ∨ b = none ∨ a = b) : ∀ x ∈ T, x.call.isCarriage = false := by
  cases h with
  | nowhere _ => simp
  | shared => simp [Call.isCarriage]
  | _ => simp_all

theorem DataCourse.moves {s d : String} {x : Except Failure Unit} (h : DataCourse o spec a b T r)
    (hx : .move s d x ∈ T) : ∃ l, a = some l ∧ b = some d ∧ StagedAt o l s ∧
      [.equal s l (.ok true), .move s d x].Sublist T := by
  cases h with
  | copies hne hl hc => cases hl <;> cases hc <;> simp at hx
  | moved hne hs | failed hne hs | broken hne hs _ =>
    simp only [List.mem_cons, Program.Exchange.mk.injEq, Call.transfer.injEq,
      Transfer.Request.move.injEq, reduceCtorEq, false_and, false_or, or_false, and_assoc,
      List.not_mem_nil] at hx
    obtain ⟨rfl, rfl, hx⟩ := hx
    obtain rfl := eq_of_heq hx
    exact ⟨_, rfl, rfl, hs, by simp⟩
  | _ => simp at hx

theorem DataCourse.copies_of_mem {s d : String} {tags : List Value} {x : Except Failure Int}
    (h : DataCourse o spec a b T r) (hx : .copy s d tags x ∈ T) : a = some s ∧ b = some d ∧
      tags = [o.sourceName, .text spec.database, .text spec.table] ∧ o.allowCopy = true ∧
        ∃ T₁ T₂, T = T₁ ++ .copy s d tags x :: T₂ ∧ NeedsCopy o s d T₁ ∧
          .present s (.ok true) ∈ T₁ := by
  cases h with
  | @copies a b Tl Tc _ hne hl hc =>
    have hTl : .copy s d tags x ∉ Tl := by cases hl <;> simp
    obtain ⟨rfl, rfl, htags, hallow, T₂, rfl⟩ :=
      hc.of_copy ((List.mem_append.1 hx).resolve_left hTl)
    refine ⟨rfl, rfl, htags, hallow, Tl ++ [.equal s d (.ok false), .present s (.ok true)], T₂,
      by simp, ⟨hne, hl.nothingStaged (List.subset_append_left _ _), by simp⟩, by simp⟩
  | _ => simp at hx

theorem DataCourse.failed_iff {d : DataResult} (h : DataCourse o spec a b T r) (hr : r = .ok d) :
    d.outcome = some .failed ↔ ∃ x ∈ T, x.isFailedCarriage = true := by
  have hne : Outcome.notCompletable ≠ .failed := by decide
  cases h with
  | nowhere _ => cases hr; simp
  | copies _ hl hc =>
    cases hl <;> cases hc <;>
      simp_all [Exchange.isFailedCarriage, Call.isCarriage, Failure.isTransfer]
  | _ => simp_all [Exchange.isFailedCarriage, Call.isCarriage, Failure.isTransfer]

theorem DataCourse.notCompletable_iff {d : DataResult} (h : DataCourse o spec a b T r)
    (hr : r = .ok d) : d.outcome = some .notCompletable ↔
      ∃ s t, a = some s ∧ b = some t ∧ NeedsCopy o s t T ∧
        (o.allowCopy = false ∨ .present s (.ok false) ∈ T) := by
  have hne : Outcome.failed ≠ .notCompletable := by decide
  cases h with
  | nowhere hab =>
    cases hr
    refine iff_of_false nofun ?_
    rintro ⟨s, t, rfl, rfl, -⟩
    simp at hab
  | shared =>
    refine iff_of_false (by simp_all) ?_
    rintro ⟨s, t, ⟨⟩, ⟨⟩, hneeds, -⟩
    exact hneeds.different rfl
  | moved _ _ | failed _ _ =>
    refine iff_of_false (by simp_all) ?_
    rintro ⟨s, t, ⟨⟩, ⟨⟩, hneeds, -⟩
    simpa using hneeds.disagree
  | @copies a b Tl Tc _ hab hl hc =>
    have hstaged : NothingStaged o a (Tl ++ Tc) := hl.nothingStaged (List.subset_append_left _ _)
    cases hc with
    | disallowed ho =>
      have hneeds : NeedsCopy o a b _ := ⟨hab, hstaged, by simp⟩
      exact iff_of_true (by simp_all) ⟨a, b, rfl, rfl, hneeds, .inl ho⟩
    | missing ho =>
      have hneeds : NeedsCopy o a b _ := ⟨hab, hstaged, by simp⟩
      exact iff_of_true (by simp_all) ⟨a, b, rfl, rfl, hneeds, .inr (by simp)⟩
    | upToDate =>
      refine iff_of_false (by simp_all) ?_
      rintro ⟨s, t, ⟨⟩, ⟨⟩, hneeds, -⟩
      have hdisagree := hneeds.disagree
      cases hl <;> simp_all
    | copied ho | failed ho =>
      refine iff_of_false (by simp_all) ?_
      rintro ⟨s, t, ⟨⟩, ⟨⟩, -, hno⟩
      cases hl <;> simp_all
    | _ => cases hr
  | _ => cases hr

theorem DataCourse.outcome_eq {d : DataResult} {out : Outcome} (h : DataCourse o spec a b T r)
    (hr : r = .ok d) (hd : d.outcome = some out) : out = .failed ∨ out = .notCompletable := by
  cases h with
  | nowhere _ => cases hr; cases hd
  | copies _ hl hc => cases hl <;> cases hc <;> simp_all
  | _ => simp_all

theorem DataCourse.bytes_of_copy {d : DataResult} {s t : String} {tags : List Value} {n : Int}
    (h : DataCourse o spec a b T r) (hr : r = .ok d) (hx : .copy s t tags (.ok n) ∈ T) :
    d.bytes = n := by
  cases h with
  | copies _ hl hc => cases hl <;> cases hc <;> simp_all
  | _ => simp_all

theorem DataCourse.bytes_of_none {d : DataResult} (h : DataCourse o spec a b T r)
    (hr : r = .ok d) (hx : ∀ s t tags n, .copy s t tags (.ok n) ∉ T) : d.bytes = 0 := by
  cases h with
  | nowhere _ => cases hr; rfl
  | @copies a b _ _ _ _ hl hc =>
    cases hc with
    | @copied n _ _ =>
      exact absurd (by simp) (hx a b [o.sourceName, .text spec.database, .text spec.table] n)
    | _ => simp_all
  | _ => simp_all

theorem DataCourse.propagates (h : DataCourse o spec a b T r) :
    ∀ x ∈ T.dropLast, x.raised? = none := by
  cases h with
  | copies _ hl hc =>
    cases hl <;> cases hc <;>
      simp [Exchange.raised?, Exchange.isFailedCarriage, Call.isCarriage, Failure.isTransfer]
  | _ => simp [Exchange.raised?, Exchange.isFailedCarriage, Call.isCarriage, Failure.isTransfer]

theorem DataCourse.raises_iff {e : Failure} (h : DataCourse o spec a b T r) :
    r = .error e ↔ (∃ x, T.getLast? = some x ∧ x.raised? = some e) ∨
      T = [] ∧ ∃ s t, a = some s ∧ b = some t ∧ s ≠ t ∧ o.stagingRoot.isNull = false ∧
        stagedPath o.stagingRoot (.text s) = .error e := by
  cases h with
  | nowhere hab =>
    refine iff_of_false nofun ?_
    rintro (⟨x, hx, -⟩ | ⟨-, s, t, rfl, rfl, -⟩)
    · cases hx
    · rcases hab with hab | hab <;> cases hab
  | copies _ hl hc =>
    cases hl <;> cases hc <;>
      simp_all [Exchange.raised?, Exchange.isFailedCarriage, Call.isCarriage]
  | _ => simp_all [Exchange.raised?, Exchange.isFailedCarriage, Call.isCarriage]

end

/-- What a transcript says about the decisions of a data step. -/
structure Decided (o : DataOptions) (spec : Spec) (a b : Option String) (T : List Exchange)
    (r : Except Failure DataResult) : Prop where
  /-- Data is carried once at most. -/
  carries_once : T.countP (fun x => x.call.isCarriage) ≤ 1
  carries_between : a = none ∨ b = none ∨ a = b → ∀ x ∈ T, x.call.isCarriage = false
  /-- What is moved is what is staged, after it matched. -/
  moves : ∀ s d x, .move s d x ∈ T → ∃ l, a = some l ∧ b = some d ∧ StagedAt o l s ∧
    [.equal s l (.ok true), .move s d x].Sublist T
  /-- What is copied is the source, after it was seen to be different, not staged, and there. -/
  copies : ∀ s d tags x, .copy s d tags x ∈ T → a = some s ∧ b = some d ∧
    tags = [o.sourceName, .text spec.database, .text spec.table] ∧ o.allowCopy = true ∧
      ∃ T₁ T₂, T = T₁ ++ .copy s d tags x :: T₂ ∧ NeedsCopy o s d T₁ ∧
        .present s (.ok true) ∈ T₁
  failed_iff : ∀ d, r = .ok d → (d.outcome = some .failed ↔ ∃ x ∈ T, x.isFailedCarriage = true)
  notCompletable_iff : ∀ d, r = .ok d → (d.outcome = some .notCompletable ↔
    ∃ s t, a = some s ∧ b = some t ∧ NeedsCopy o s t T ∧
      (o.allowCopy = false ∨ .present s (.ok false) ∈ T))
  outcome_eq : ∀ d out, r = .ok d → d.outcome = some out → out = .failed ∨ out = .notCompletable
  bytes_of_copy : ∀ d, r = .ok d → ∀ s t tags n, .copy s t tags (.ok n) ∈ T → d.bytes = n
  bytes_of_none : ∀ d, r = .ok d → (∀ s t tags n, .copy s t tags (.ok n) ∉ T) → d.bytes = 0
  /-- Nothing is called after an error, unless it is that of a transfer. -/
  propagates : ∀ x ∈ T.dropLast, x.raised? = none
  /-- Such an error is what the step ends with. So it is when there is no place below the staging
  root for the source; then nothing was called. -/
  raises_iff : ∀ e, r = .error e ↔ (∃ x, T.getLast? = some x ∧ x.raised? = some e) ∨
    T = [] ∧ ∃ s t, a = some s ∧ b = some t ∧ s ≠ t ∧ o.stagingRoot.isNull = false ∧
      stagedPath o.stagingRoot (.text s) = .error e

theorem decided_of_course {a b : Option String} (h : DataCourse o spec a b T r) :
    Decided o spec a b T r where
  carries_once := h.carries_once
  carries_between := h.carries_between
  moves _ _ _ := h.moves
  copies _ _ _ _ := h.copies_of_mem
  failed_iff _ := h.failed_iff
  notCompletable_iff _ := h.notCompletable_iff
  outcome_eq _ _ := h.outcome_eq
  bytes_of_copy _ hr _ _ _ _ := h.bytes_of_copy hr
  bytes_of_none _ := h.bytes_of_none
  propagates := h.propagates
  raises_iff _ := h.raises_iff

/-- The tree of the source is never touched by a data step that succeeds. -/
theorem Carries.tree_source {K : Transfer.Carrier} {files files' : K.State} {a b : Option String}
    {n : Int} {s : String} (h : Carries K o spec files a b files' n)
    (hapart : LocationsApart K o a b) (ha : a = some s) : K.tree s files' = K.tree s files := by
  cases h with
  | settled _ => rfl
  | moved hne hs hserve =>
    cases ha
    obtain ⟨hab, hstaged⟩ := hapart _ _ rfl rfl hne
    obtain ⟨hsa, hsb⟩ := hstaged _ hs.path
    exact (K.tree_move hserve hsb).2.2 s (K.apart_symm hsa) hab
  | copied hne _ _ _ _ hserve =>
    cases ha
    obtain ⟨hab, -⟩ := hapart _ _ rfl rfl hne
    exact (K.tree_copy hserve hab).2 s hab

/-- **The decisions of a data step.** Whatever is answered, a data step decides by its rules. Beside
a carrier that keeps to its contract, and with locations apart, a step without an outcome leaves the
source as it is and the destination in agreement with it, whatever else may have failed. -/
theorem reconcileData_decides (o : DataOptions) (spec : Spec) (a b : Option String) :
    (∀ T r, (reconcileData o spec a b).Yields T r → Decided o spec a b T r) ∧
      ∀ (E : Partners) (m m' : E.Moment) (d : DataResult), LocationsApart E.carrier o a b →
        E.Reaches (reconcileData o spec a b) m (.done d) m' → d.outcome = none →
          InPlace E.carrier m'.world.files a b ∧
            ∀ s, a = some s → E.carrier.tree s m'.world.files = E.carrier.tree s m.world.files := by
  refine ⟨fun T r h => decided_of_course (course_of_yields h), ?_⟩
  intro E m m' d hapart hreaches hd
  have hensures : EnsuresData E o spec a b True m.world (reconcileData o spec a b) m :=
    reconcileData_ensures rfl
  have hended : Reconciled E o spec a b True m.world (.ok d) m'.world := hensures.reaches hreaches
  have hcarries := hended.carries d rfl hd
  exact ⟨(settled_of_carries hapart hcarries).inPlace, fun s hs => hcarries.tree_source hapart hs⟩

namespace Sample

/-- The data step for the partition. -/
def dataStep : TaskProgram DataResult :=
  reconcileData setup.dataOptions Sample.spec (some "hdfs://here/orders/1")
    (some "s3://there/orders/1")

def start : partners.Moment := { world := world, clock := fun _ => 0 }

theorem locationsApart : LocationsApart partners.carrier setup.dataOptions
    (some "hdfs://here/orders/1") (some "s3://there/orders/1") := by
  have hpath : stagedPath setup.dataOptions.stagingRoot (.text "hdfs://here/orders/1")
      = .ok "s3://staged/orders/1" := rfl
  rintro s d ⟨⟩ ⟨⟩ -
  refine ⟨(by decide : "hdfs://here/orders/1" ≠ "s3://there/orders/1"), fun staged hstaged => ?_⟩
  obtain rfl := Except.ok.inj (hpath.symm.trans hstaged)
  exact ⟨(by decide : "s3://staged/orders/1" ≠ "hdfs://here/orders/1"),
    (by decide : "s3://staged/orders/1" ≠ "s3://there/orders/1")⟩

end Sample

/-- A partition whose data is copied. -/
theorem reconcileData_decides_copy :
    Decided Sample.setup.dataOptions Sample.spec (some "hdfs://here/orders/1")
      (some "s3://there/orders/1")
      (Sample.dataStep.transcript Sample.partners.serve (fun _ m => m) Sample.start)
      (.ok { bytes := 3 }) ∧
    InPlace Transfer.flat
      (Sample.dataStep.run Sample.partners.serve (fun _ m => m) Sample.start).2.world.files
      (some "hdfs://here/orders/1") (some "s3://there/orders/1") := by
  obtain ⟨hdecided, hcontract⟩ := reconcileData_decides Sample.setup.dataOptions Sample.spec
    (some "hdfs://here/orders/1") (some "s3://there/orders/1")
  have hserve : ∀ c m, Sample.partners.Answers True c m (Sample.partners.serve c m).1
      (Sample.partners.serve c m).2 := fun _ _ => .inl ⟨rfl, rfl⟩
  have hyields :=
    Program.yields_run Sample.partners.serve (fun _ m => m) Sample.dataStep Sample.start
  have hreaches : Program.Reaches (Sample.partners.Answers True) (fun _ m => m) Sample.dataStep
      Sample.start (.done { bytes := 3 }) _ :=
    Program.reaches_run hserve Sample.dataStep Sample.start
  exact ⟨hdecided _ _ hyields, (hcontract _ _ _ _ Sample.locationsApart hreaches rfl).1⟩

end Task

end CatalogReplication
