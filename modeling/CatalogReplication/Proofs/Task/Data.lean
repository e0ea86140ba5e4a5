import CatalogReplication.Proofs.Task.Partners
import CatalogReplication.Task.Data

/-!
# Reconciling data: what it takes and what it leaves

Data is *settled* if nothing is to be done: a location is missing, both are the same, or their trees
agree and no matching tree is staged. `Carries` is how a data step succeeds: everything was settled,
the staged tree was moved, or the tree was copied.

* `settled_of_carries`: after a successful data step the data is settled, if the locations are
  apart.
* `reconcileData_ensures`: at every point of a data step the catalogs are as they were, and the
  files are as they were or as a successful step leaves them; it succeeds only by `Carries`, and
  without faults whenever `Carries` says that it can.
-/

namespace CatalogReplication.Task

open Transfer (Carrier)

section

variable (K : Carrier) (o : DataOptions)

/-- A tree that agrees with the one at `a` is staged. -/
structure Staged (a staged : String) (files : K.State) : Prop where
  hasRoot : o.stagingRoot.isNull = false
  path : stagedPath o.stagingRoot (.text a) = .ok staged
  agrees : K.agrees staged a files = true

/-- No tree that agrees with the one at `a` is staged. -/
def Unstaged (a : String) (files : K.State) : Prop :=
  o.stagingRoot.isNull = true ∨
    ∃ staged, stagedPath o.stagingRoot (.text a) = .ok staged ∧ K.agrees staged a files = false

/-- Nothing is to be done about data. -/
inductive Settled (files : K.State) : Option String → Option String → Prop where
  | nowhere {a b : Option String} (h : a = none ∨ b = none) : Settled files a b
  | shared {a : String} : Settled files (some a) (some a)
  | agreed {a b : String} (hu : Unstaged K o a files) (h : K.agrees a b files = true) :
      Settled files (some a) (some b)

/-- A data step succeeds with these files afterwards, having copied this many bytes. -/
inductive Carries (spec : Spec) (files : K.State) :
    Option String → Option String → K.State → Int → Prop where
  | settled {a b : Option String} (h : Settled K o files a b) : Carries spec files a b files 0
  | moved {a b staged : String} {files' : K.State} (hne : a ≠ b) (hs : Staged K o a staged files)
      (h : K.serve (.move staged b) files = (.ok (), files')) :
      Carries spec files (some a) (some b) files' 0
  | copied {a b : String} {files' : K.State} {n : Int} (hne : a ≠ b) (hu : Unstaged K o a files)
      (hd : K.agrees a b files = false) (ho : o.allowCopy = true)
      (ha : (K.tree a files).isSome = true)
      (h : K.serve (.copy a b [o.sourceName, .text spec.database, .text spec.table]) files
        = (.ok n, files')) :
      Carries spec files (some a) (some b) files' n

/-- Two locations, if there are two, and what may be staged for the first lie apart. -/
def LocationsApart (a b : Option String) : Prop :=
  ∀ s d, a = some s → b = some d → s ≠ d →
    K.Apart s d ∧ ∀ staged, stagedPath o.stagingRoot (.text s) = .ok staged →
      K.Apart staged s ∧ K.Apart staged d

end

variable {K : Carrier} {o : DataOptions} {spec : Spec} {files files' : K.State}

/-! ### What carrying leaves -/

theorem not_unstaged {a staged : String} (hs : Staged K o a staged files) :
    ¬ Unstaged K o a files := by
  rintro (hnull | ⟨staged', hpath, hdiffer⟩)
  · rw [hs.hasRoot] at hnull
    cases hnull
  · rw [hs.path] at hpath
    cases hpath
    rw [hs.agrees] at hdiffer
    cases hdiffer

/-- Different locations are settled by agreement. -/
theorem Settled.of_ne {a b : String} (h : Settled K o files (some a) (some b)) (hne : a ≠ b) :
    Unstaged K o a files ∧ K.agrees a b files = true := by
  cases h with
  | nowhere h => rcases h with h | h <;> cases h
  | shared => exact absurd rfl hne
  | agreed hu hagrees => exact ⟨hu, hagrees⟩

theorem carries_of_settled {a b : Option String} {n : Int} (hs : Settled K o files a b) :
    Carries K o spec files a b files' n ↔ files' = files ∧ n = 0 := by
  constructor
  · intro h
    cases h with
    | settled _ => exact ⟨rfl, rfl⟩
    | moved hne hstaged _ => exact absurd (hs.of_ne hne).1 (not_unstaged hstaged)
    | copied hne _ hd _ _ _ =>
      have hagrees := (hs.of_ne hne).2
      rw [hd] at hagrees
      cases hagrees
  · rintro ⟨rfl, rfl⟩
    exact .settled hs

theorem carries_of_staged {a b staged : String} {n : Int} (hne : a ≠ b)
    (hs : Staged K o a staged files) :
    Carries K o spec files (some a) (some b) files' n ↔
      n = 0 ∧ K.serve (.move staged b) files = (.ok (), files') := by
  constructor
  · intro h
    cases h with
    | settled hsettled => exact absurd (hsettled.of_ne hne).1 (not_unstaged hs)
    | moved _ hs' hserve =>
      have hpath := hs'.path
      rw [hs.path] at hpath
      cases hpath
      exact ⟨rfl, hserve⟩
    | copied _ hu _ _ _ _ => exact absurd hu (not_unstaged hs)
  · rintro ⟨rfl, hserve⟩
    exact .moved hne hs hserve

theorem carries_of_differ {a b : String} {n : Int} (hne : a ≠ b) (hu : Unstaged K o a files)
    (hd : K.agrees a b files = false) :
    Carries K o spec files (some a) (some b) files' n ↔
      o.allowCopy = true ∧ (K.tree a files).isSome = true ∧
        K.serve (.copy a b [o.sourceName, .text spec.database, .text spec.table]) files
          = (.ok n, files') := by
  constructor
  · intro h
    cases h with
    | settled hsettled =>
      have hagrees := (hsettled.of_ne hne).2
      rw [hd] at hagrees
      cases hagrees
    | moved _ hs _ => exact absurd hu (not_unstaged hs)
    | copied _ _ _ ho ha hserve => exact ⟨ho, ha, hserve⟩
  · rintro ⟨ho, ha, hserve⟩
    exact .copied hne hu hd ho ha hserve

/-- Without a place where a tree may be staged, a data step that needs one can't succeed. -/
theorem not_carries_of_error {a b : String} {n : Int} {e : Failure} (hne : a ≠ b)
    (hroot : o.stagingRoot.isNull = false)
    (hpath : stagedPath o.stagingRoot (.text a) = .error e) :
    ¬ Carries K o spec files (some a) (some b) files' n := by
  have hunstaged : ¬ Unstaged K o a files := by
    rintro (hnull | ⟨staged, hpath', -⟩)
    · rw [hroot] at hnull
      cases hnull
    · rw [hpath] at hpath'
      cases hpath'
  intro h
  cases h with
  | settled hsettled => exact hunstaged (hsettled.of_ne hne).1
  | moved _ hs _ =>
    have hpath' := hs.path
    rw [hpath] at hpath'
    cases hpath'
  | copied _ hu _ _ _ _ => exact hunstaged hu

/-- There is one way for a data step to succeed. -/
theorem carries_unique {a b : Option String} {files₁ files₂ : K.State} {n₁ n₂ : Int}
    (h₁ : Carries K o spec files a b files₁ n₁) (h₂ : Carries K o spec files a b files₂ n₂) :
    files₁ = files₂ ∧ n₁ = n₂ := by
  cases h₁ with
  | settled hs =>
    obtain ⟨rfl, rfl⟩ := (carries_of_settled hs).1 h₂
    exact ⟨rfl, rfl⟩
  | moved hne hs hserve =>
    obtain ⟨rfl, hserve'⟩ := (carries_of_staged hne hs).1 h₂
    rw [hserve] at hserve'
    cases hserve'
    exact ⟨rfl, rfl⟩
  | copied hne hu hd _ _ hserve =>
    obtain ⟨-, -, hserve'⟩ := (carries_of_differ hne hu hd).1 h₂
    rw [hserve] at hserve'
    cases hserve'
    exact ⟨rfl, rfl⟩

/-- What was not staged stays so if neither its place nor the source is touched. -/
theorem Unstaged.congr {a : String} (h : Unstaged K o a files)
    (ha : K.tree a files' = K.tree a files)
    (hstaged : ∀ staged, stagedPath o.stagingRoot (.text a) = .ok staged →
      K.tree staged files' = K.tree staged files) : Unstaged K o a files' := by
  rcases h with hnull | ⟨staged, hpath, hdiffer⟩
  · exact .inl hnull
  · exact .inr ⟨staged, hpath, by rwa [K.agrees_congr (hstaged staged hpath) ha]⟩

/-- **A data step that succeeds leaves nothing to be done.** -/
theorem settled_of_carries {a b : Option String} {n : Int} (hapart : LocationsApart K o a b)
    (h : Carries K o spec files a b files' n) : Settled K o files' a b := by
  cases h with
  | settled hs => exact hs
  | @moved a b staged _ hne hs hserve =>
    obtain ⟨hab, hstaged⟩ := hapart a b rfl rfl hne
    obtain ⟨hsa, hsb⟩ := hstaged staged hs.path
    obtain ⟨-, hgone, -⟩ := K.tree_move hserve hsb
    refine .agreed (.inr ⟨staged, hs.path, K.agrees_eq_false_of_none hgone⟩) ?_
    exact K.agrees_of_move hserve hsb (K.apart_symm hsa) hab hs.agrees
  | @copied a b _ n hne hu hd ho ha hserve =>
    obtain ⟨hab, hstaged⟩ := hapart a b rfl rfl hne
    obtain ⟨-, hrest⟩ := K.tree_copy hserve hab
    refine .agreed (hu.congr (hrest a hab) fun staged hpath => ?_) (K.agrees_of_copy hserve hab ha)
    exact hrest staged (hstaged staged hpath).2

/-! ### What a data step does -/

variable {E : Partners}

/-- A world in the course of a data step that began in another one: the catalogs are as they were,
the files too or as a successful step leaves them. -/
structure Attempted (E : Partners) (o : DataOptions) (spec : Spec) (a b : Option String)
    (w w' : E.World) : Prop where
  source : w'.source = w.source
  destination : w'.destination = w.destination
  files : w'.files = w.files ∨
    ∀ files' n, Carries E.carrier o spec w.files a b files' n → w'.files = files'

/-- How a data step that began in a world may end. -/
structure Reconciled (E : Partners) (o : DataOptions) (spec : Spec) (a b : Option String)
    (faulty : Prop) (w : E.World) (r : Except Failure DataResult) (w' : E.World) : Prop where
  attempted : Attempted E o spec a b w w'
  carries : ∀ d, r = .ok d → d.outcome = none →
    Carries E.carrier o spec w.files a b w'.files d.bytes
  unsuccessful : ∀ d out, r = .ok d → d.outcome = some out → out.isSuccessful = false
  completes : ¬ faulty → ∀ files' n, Carries E.carrier o spec w.files a b files' n →
    r = .ok { bytes := n }

section

variable {a b : Option String} {faulty : Prop} {w w' : E.World}

theorem Attempted.refl : Attempted E o spec a b w w := ⟨rfl, rfl, .inl rfl⟩

/-- A fault ends a data step wherever it is. -/
theorem Reconciled.of_fault (hf : faulty) (e : Failure) (h : Attempted E o spec a b w w') :
    Reconciled E o spec a b faulty w (.error e) w' :=
  ⟨h, (fun _ hd => nomatch hd), (fun _ _ hd => nomatch hd), fun hclean => absurd hf hclean⟩

/-- A data step that can't succeed ends without success. -/
theorem Reconciled.of_stuck {r : Except Failure DataResult} (h : Attempted E o spec a b w w')
    (hr : ∀ d, r = .ok d → ∃ out, d.outcome = some out ∧ out.isSuccessful = false)
    (hstuck : ∀ files' n, ¬ Carries E.carrier o spec w.files a b files' n) :
    Reconciled E o spec a b faulty w r w' := by
  refine ⟨h, fun d hd hnone => ?_, fun d out hd hout => ?_, fun _ files' n hc =>
    absurd hc (hstuck files' n)⟩
  · obtain ⟨out, hout, -⟩ := hr d hd
    rw [hnone] at hout
    cases hout
  · obtain ⟨out', hout', hnot⟩ := hr d hd
    rw [hout] at hout'
    cases hout'
    exact hnot

/-- A data step that failed, by a fault or because it can't succeed. -/
theorem Reconciled.of_failed (h : Attempted E o spec a b w w')
    (hfail : faulty ∨ ∀ files' n, ¬ Carries E.carrier o spec w.files a b files' n) :
    Reconciled E o spec a b faulty w (.ok { outcome := some .failed }) w' := by
  refine ⟨h, ?_, ?_, fun hclean files' n hc => ?_⟩
  · rintro d hd hnone
    cases hd
    cases hnone
  · rintro d out hd hout
    cases hd
    cases hout
    rfl
  · rcases hfail with hf | hstuck
    · exact absurd hf hclean
    · exact absurd hc (hstuck files' n)

/-- A data step that succeeded. -/
theorem Reconciled.of_carries {n : Int} (hs : w'.source = w.source)
    (hd : w'.destination = w.destination)
    (h : Carries E.carrier o spec w.files a b w'.files n) :
    Reconciled E o spec a b faulty w (.ok { bytes := n }) w' := by
  refine ⟨⟨hs, hd, .inr fun files' n' h' => (carries_unique h h').1⟩, ?_, ?_, ?_⟩
  · rintro d hd' -
    cases hd'
    exact h
  · rintro d out hd' hout
    cases hd'
    cases hout
  · intro _ files' n' h'
    rw [(carries_unique h h').2]

end

/-- The conditions under which a data step is looked at: at every call and at the end. -/
abbrev EnsuresData (E : Partners) (o : DataOptions) (spec : Spec) (a b : Option String)
    (faulty : Prop) (w : E.World) (p : TaskProgram DataResult) (m : E.Moment) : Prop :=
  E.Ensures faulty (fun _ m' => Attempted E o spec a b w m'.world)
    (fun r m' => Reconciled E o spec a b faulty w r m'.world) p m

section

variable {a b : Option String} {faulty : Prop} {w w₁ : E.World} {m : E.Moment}

/-- A look in the course of a data step. -/
theorem ensuresData_look {c : Call} {v : c.Answer} {f : c.Answer → TaskProgram DataResult}
    (hlook : E.Looks c w₁ v) (hw : m.world = w₁) (h : Attempted E o spec a b w w₁)
    (hnext : ∀ m' : E.Moment, m'.world = w₁ → EnsuresData E o spec a b faulty w (f v) m') :
    EnsuresData E o spec a b faulty w ((Program.perform c).bind f) m :=
  Partners.ensures_look hlook hw (hw ▸ h) (fun m' hm' _ => hnext m' hm')
    fun hf e _ hm' _ => .of_fault hf e (hm' ▸ h)

/-- An event and then the end of a data step. -/
theorem ensuresData_emit {kind : EventKind} {details : List (String × Value)} {d : DataResult}
    (hw : m.world = w₁) (h : Reconciled E o spec a b faulty w (.ok d) w₁) :
    EnsuresData E o spec a b faulty w
      ((TaskProgram.emit spec kind details).bind fun _ => .done d) m :=
  ensuresData_look (Partners.looks_hear _ _) hw h.attempted fun m' hm' => by
    show Reconciled E o spec a b faulty w (.ok d) m'.world
    rwa [hm']

/-- A copy or a move: whatever it does, it ends the data step. -/
theorem ensuresData_tryTransfer {r : Transfer.Request} {f : _ → TaskProgram DataResult}
    (hw : m.world = w)
    (hcarries : ∀ v files', E.carrier.serve r w.files = (.ok v, files') →
      ∀ m' : E.Moment, m'.world = { w with files := files' } →
        EnsuresData E o spec a b faulty w (f (.ok v)) m')
    (hfiles : ∀ files' n, Carries E.carrier o spec w.files a b files' n →
      ∃ v, E.carrier.serve r w.files = (.ok v, files'))
    (hfails : ∀ e w', Attempted E o spec a b w w' →
      (faulty ∨ ∀ files' n, ¬ Carries E.carrier o spec w.files a b files' n) →
      ∀ m' : E.Moment, m'.world = w' → EnsuresData E o spec a b faulty w (f (.error e)) m') :
    EnsuresData E o spec a b faulty w ((TaskProgram.tryTransfer r).bind f) m := by
  subst hw
  -- what the carrier leaves is what a successful step leaves, if there can be one
  have hafter : Attempted E o spec a b m.world (E.serve (.transfer r) m).2.world := by
    refine ⟨rfl, rfl, .inr fun files' n hc => ?_⟩
    obtain ⟨v, hserve⟩ := hfiles files' n hc
    show (E.carrier.serve r m.world.files).2 = files'
    rw [hserve]
  refine Partners.ensures_call .refl ?_ ?_
  · have hanswer : (E.serve (.transfer r) m).1 = (E.carrier.serve r m.world.files).1 := rfl
    have hworld : (E.serve (.transfer r) m).2.world =
        { m.world with files := (E.carrier.serve r m.world.files).2 } := rfl
    rcases hserve : E.carrier.serve r m.world.files with ⟨x, files'⟩
    rw [hserve] at hanswer hworld
    rw [hanswer]
    cases x with
    | ok v => exact hcarries v files' hserve _ hworld
    | error e =>
      have hstuck : ∀ files' n, ¬ Carries E.carrier o spec m.world.files a b files' n := by
        intro files'' n hc
        obtain ⟨v, hv⟩ := hfiles files'' n hc
        rw [hserve] at hv
        cases hv
      cases e with
      | transfer e => exact hfails e _ hafter (.inr hstuck) _ rfl
      | _ => exact Reconciled.of_stuck hafter (fun _ hd => nomatch hd) hstuck
  · rintro hf e m' hm' -
    have hm : Attempted E o spec a b m.world m'.world := by
      rcases hm' with h | h
      · rw [h]
        exact .refl
      · rw [h]
        exact hafter
    cases e with
    | transfer e => exact hfails e _ hm (.inl hf) m' rfl
    | _ => exact Reconciled.of_fault hf _ hm

end

section

variable {a b : String} {faulty : Prop} {w : E.World} {m : E.Moment}

/-- Copying where nothing that matches is staged. -/
theorem copyData_ensures (hw : m.world = w) (hne : a ≠ b)
    (hu : Unstaged E.carrier o a w.files) :
    EnsuresData E o spec (some a) (some b) faulty w (copyData o spec a b) m := by
  have hrefl : Attempted E o spec (some a) (some b) w w := .refl
  refine ensuresData_look (Partners.looks_equal a b w) hw hrefl fun m₁ hm₁ => ?_
  cases hagrees : E.carrier.agrees a b w.files with
  | true =>
    exact ensuresData_emit hm₁ (.of_carries rfl rfl (.settled (.agreed hu hagrees)))
  | false =>
    have hiff : ∀ files' n, Carries E.carrier o spec w.files (some a) (some b) files' n ↔ _ :=
      fun _ _ => carries_of_differ hne hu hagrees
    cases hallow : o.allowCopy with
    | false =>
      refine ensuresData_emit hm₁ (.of_stuck hrefl ?_ fun files' n hc => ?_)
      · rintro d hd
        cases hd
        exact ⟨_, rfl, rfl⟩
      · have := ((hiff files' n).1 hc).1
        rw [hallow] at this
        cases this
    | true =>
      refine ensuresData_look (Partners.looks_exists a w) hm₁ hrefl fun m₂ hm₂ => ?_
      cases hexists : (E.carrier.tree a w.files).isSome with
      | false =>
        refine ensuresData_emit hm₂ (.of_stuck hrefl ?_ fun files' n hc => ?_)
        · rintro d hd
          cases hd
          exact ⟨_, rfl, rfl⟩
        · have htree := ((hiff files' n).1 hc).2.1
          rw [hexists] at htree
          cases htree
      | true =>
        refine ensuresData_tryTransfer hm₂ (fun n files' hserve m₃ hm₃ => ?_)
          (fun files' n hc => ⟨n, ((hiff files' n).1 hc).2.2⟩) (fun e w' hw' hfail m₃ hm₃ => ?_)
        · exact ensuresData_emit hm₃
            (.of_carries rfl rfl ((hiff files' n).2 ⟨hallow, hexists, hserve⟩))
        · exact ensuresData_emit hm₃ (.of_failed hw' hfail)

/-- Moving what is staged into place. -/
theorem moveStaged_ensures {staged : String} (hw : m.world = w) (hne : a ≠ b)
    (hs : Staged E.carrier o a staged w.files) :
    EnsuresData E o spec (some a) (some b) faulty w (moveStaged spec staged b) m := by
  have hiff : ∀ files' n, Carries E.carrier o spec w.files (some a) (some b) files' n ↔ _ :=
    fun _ _ => carries_of_staged hne hs
  refine ensuresData_tryTransfer hw (fun v files' hserve m₁ hm₁ => ?_)
    (fun files' n hc => ⟨(), ((hiff files' n).1 hc).2⟩) (fun e w' hw' hfail m₁ hm₁ => ?_)
  · exact ensuresData_emit hm₁ (.of_carries rfl rfl ((hiff files' 0).2 ⟨rfl, hserve⟩))
  · exact ensuresData_emit hm₁ (.of_failed hw' hfail)

/-- Bringing two different locations together. -/
theorem reconcileLocations_ensures (hw : m.world = w) (hne : a ≠ b) :
    EnsuresData E o spec (some a) (some b) faulty w (reconcileLocations o spec a b) m := by
  unfold reconcileLocations
  cases hroot : o.stagingRoot.isNull with
  | true => exact copyData_ensures hw hne (.inl hroot)
  | false =>
    cases hpath : stagedPath o.stagingRoot (.text a) with
    | error e =>
      exact Reconciled.of_stuck (hw ▸ .refl) (fun _ hd => nomatch hd)
        fun files' n => not_carries_of_error hne hroot hpath
    | ok staged =>
      refine ensuresData_look (Partners.looks_equal staged a w) hw .refl fun m₁ hm₁ => ?_
      cases hagrees : E.carrier.agrees staged a w.files with
      | true => exact moveStaged_ensures hm₁ hne ⟨hroot, hpath, hagrees⟩
      | false =>
        refine ensuresData_look (Partners.looks_hear _ w) hm₁ .refl fun m₂ hm₂ => ?_
        exact copyData_ensures hm₂ hne (.inr ⟨staged, hpath, hagrees⟩)

end

/-- **A data step**: at every point the catalogs are as they were, and the files are as they were or
as a successful step leaves them; it succeeds by carrying, and without faults whenever it can. -/
theorem reconcileData_ensures {a b : Option String} {faulty : Prop} {w : E.World} {m : E.Moment}
    (hw : m.world = w) : EnsuresData E o spec a b faulty w (reconcileData o spec a b) m := by
  have hnowhere : a = none ∨ b = none →
      EnsuresData E o spec a b faulty w (.done {}) m := fun h => by
    show Reconciled E o spec a b faulty w (.ok {}) m.world
    rw [hw]
    exact .of_carries rfl rfl (.settled (.nowhere h))
  unfold reconcileData
  cases a with
  | none => exact hnowhere (.inl rfl)
  | some a =>
    cases b with
    | none => exact hnowhere (.inr rfl)
    | some b =>
      by_cases hab : a = b
      · subst hab
        simp only [if_true]
        exact ensuresData_emit hw (.of_carries rfl rfl (.settled .shared))
      · simp only [if_neg hab]
        exact reconcileLocations_ensures hw hab

end CatalogReplication.Task
