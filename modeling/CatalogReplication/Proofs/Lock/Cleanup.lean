import CatalogReplication.Lab.Scenario
import CatalogReplication.Proofs.Lock.Order
import CatalogReplication.Proofs.Lock.Session

/-!
# The way out of a hold on a service

A hold gives back in reverse what it has taken, whether a lock was refused or its block came to an
end or failed. On a coordination service each of these calls may fail. `Desk.holding_clears` says
which calls the service hears: those up to the first that fails. If none fails before the last, the
service is asked to take back every lock. A call that fails leaves the locks behind it untried and
held (`Desk.untried_after_failure`); and if the manager was disposed of in the meantime, none is
tried.

The parts are one call to take a lock (`Desk.Acquired`) and one to give it back (`Desk.Released`),
then the two loops by induction on the locks (`Desk.Took`, `Desk.Cleared`).
-/

namespace CatalogReplication.Lock

/-- A call that a service heard. -/
def Heard.call? : Heard → Option String
  | .service text => some text
  | .transition .. => none

namespace Desk

variable {α : Type} {sv : Service} {d d' : Desk} {r : Requirement} {rs : List Requirement}

/-- The calls that a service has heard. -/
def calls (d : Desk) : List String := d.log.filterMap Heard.call?

/-- How a service is asked to take a lock back. -/
def releaseCall (sv : Service) (r : Requirement) : String :=
  s!"{serviceKind r.kind} release {nodePath sv r}"

/-- How a service is asked for a lock, and what it answered. -/
def acquireCall (sv : Service) (answer : String) (r : Requirement) : String :=
  s!"{serviceKind r.kind} acquire {nodePath sv r}" ++ answer

theorem silent_transitions (m : Manager) (r : Requirement) (new : LockState) :
    (transitions m r new).filterMap Heard.call? = [] := by
  refine List.filterMap_eq_nil_iff.2 fun x hx => ?_
  unfold transitions at hx
  dsimp only at hx
  split at hx
  · cases hx
  · obtain ⟨l, -, rfl⟩ := List.mem_map.1 hx
    rfl

theorem calls_append (d : Desk) (entries : List Heard) :
    (d.log ++ entries).filterMap Heard.call? = d.calls ++ entries.filterMap Heard.call? :=
  List.filterMap_append

/-- What listeners are told isn't a call. -/
theorem calls_told (call : String) (m : Manager) (r : Requirement) (new : LockState) :
    (d.log ++ [Heard.service call] ++ transitions m r new).filterMap Heard.call? =
      d.calls ++ [call] := by
  rw [List.append_assoc, calls_append, List.filterMap_append, silent_transitions]
  rfl

/-- A manager on a service that still has some locks, unless it was disposed of. -/
structure Keeps (sv : Service) (rs : List Requirement) (d : Desk) : Prop where
  flavour : d.manager.flavour = .service sv
  held : d.manager.isDisposed = false → ∀ r ∈ rs, r ∈ d.manager.held

/-! ### A hold and the moment at which it ends -/

/-- Does something while holding locks. -/
def holding (s : LockSet) (block : AtDesk α) : AtDesk α := do
  let taken ← enter s
  let result ← ExceptT.lift block.run
  leave taken
  MonadExcept.ofExcept result

/-- A hold at the moment at which it begins to give its locks back. -/
structure Departure (α : Type) where
  taken : List Requirement
  /-- What the block came to, or why it wasn't entered. -/
  result : Except Failure α
  desk : Desk

/-- The moment at which a hold begins to give its locks back. -/
def departure (s : LockSet) (block : AtDesk α) (d : Desk) : Departure α :=
  match (takeEach [] s.requirements).run.run d with
  | (.ok (taken, none), d₁) => ⟨taken, (block.run.run d₁).1, (block.run.run d₁).2⟩
  | (.ok (taken, some e), d₁) => ⟨taken, .error e, d₁⟩
  | (.error e, d₁) => ⟨[], .error e, d₁⟩

theorem run_ofExcept (x : Except Failure α) (d : Desk) :
    (MonadExcept.ofExcept x : AtDesk α).run.run d = (x, d) := by
  cases x <;> rfl

/-- Whatever a hold came to, its locks are given back, and a failure to do so comes first. -/
theorem run_holding (s : LockSet) (block : AtDesk α) (d : Desk) :
    (holding s block).run.run d =
      let x := departure s block d
      let y := (leave x.taken).run.run x.desk
      (y.1 >>= fun _ => x.result, y.2) := by
  rw [holding, run_bind, run_enter, departure]
  rcases (takeEach [] s.requirements).run.run d with ⟨f | ⟨taken, f⟩, d₁⟩
  · rfl
  cases f with
  | none =>
    dsimp only
    rw [run_bind, run_attempt]
    dsimp only
    rw [run_bind]
    rcases (leave taken).run.run (block.run.run d₁).2 with ⟨f | u, d₂⟩
    · rfl
    · exact run_ofExcept _ d₂
  | some e =>
    dsimp only
    rcases (leave taken).run.run d₁ with ⟨f | u, d₂⟩ <;> rfl

/-- A task that runs under locks is a block of a hold that leaves the manager alone. -/
theorem scenario_holding {σ : Type} (s : LockSet) (d : Desk) (body : σ → Except Failure α × σ)
    (st : σ) :
    let x := Lab.Scenario.holding s d body st
    (x.1, x.2.2) = (holding s (MonadExcept.ofExcept (body st).1)).run.run d := by
  unfold Lab.Scenario.holding holding
  rw [run_bind]
  rcases (enter s).run.run d with ⟨f | taken, d₁⟩
  · rfl
  · dsimp only
    rw [run_bind, run_attempt, run_ofExcept]
    dsimp only
    rw [run_bind]
    rcases (leave taken).run.run d₁ with ⟨f | u, d₂⟩
    · rfl
    · exact (run_ofExcept _ d₂).symm

/-! ### Taking the locks -/

/-- What taking locks from a service one after the other comes to: those that were taken are the
ones that it granted. -/
structure Took (sv : Service) (rs newly : List Requirement) (failure : Option Failure)
    (d d' : Desk) : Prop where
  locks : newly <+: rs
  complete : failure = none → newly = rs
  flavour : d'.manager.flavour = .service sv
  isAlive : d'.manager.isDisposed = false
  held : d'.manager.held = d.manager.held ++ newly
  /-- At most one call wasn't granted. -/
  calls : ∃ last, d'.calls = d.calls ++ newly.map (acquireCall sv " ok") ++ last ∧
    (last = [] ∨ ∃ r, last = [acquireCall sv " refused" r] ∨ last = [acquireCall sv " failed" r])

/-- What taking a lock from a service comes to. -/
inductive Acquired (sv : Service) (r : Requirement) (d d' : Desk) : Except Failure Unit → Prop where
  | done (hm : d'.manager = d.manager.hold r)
      (hcalls : d'.calls = d.calls ++ [acquireCall sv " ok" r]) : Acquired sv r d d' (.ok ())
  /-- The lock is held already, and the service isn't asked for it. -/
  | known {e : Failure} (hm : d'.manager = d.manager) (hcalls : d'.calls = d.calls) :
      Acquired sv r d d' (.error e)
  | failed {e : Failure} {word : String} (hword : word = " refused" ∨ word = " failed")
      (hm : d'.manager = d.manager) (hcalls : d'.calls = d.calls ++ [acquireCall sv word r]) :
      Acquired sv r d d' (.error e)

theorem acquired_acquire (hf : d.manager.flavour = .service sv)
    (halive : d.manager.isDisposed = false) (r : Requirement) :
    ∃ x d', (acquire r).run.run d = (x, d') ∧ Acquired sv r d d' x := by
  rw [run_acquire]
  unfold tryAcquire
  simp only [run_bind, run_ensureAlive, run_get, halive, hf, Bool.false_eq_true, if_false]
  cases d.manager.held.contains r with
  | true => exact ⟨_, _, rfl, .known rfl rfl⟩
  | false =>
    simp only [Bool.false_eq_true, if_false, run_bind, run_nextReply]
    cases d.replies.head?.getD
        (if sv.refused.contains (nodeName r.key) then .declined else .granted) with
    | granted => exact ⟨_, _, rfl, .done rfl (calls_told _ d.manager r _)⟩
    | declined => exact ⟨_, _, rfl, .failed (.inl rfl) rfl (calls_append d _)⟩
    | failed e => exact ⟨_, _, rfl, .failed (.inr rfl) rfl (calls_append d _)⟩

theorem Took.nil {failure : Option Failure} {last : List String}
    (hcomplete : failure = none → rs = []) (hf : d.manager.flavour = .service sv)
    (halive : d.manager.isDisposed = false) (hm : d'.manager = d.manager)
    (hcalls : d'.calls = d.calls ++ last)
    (hlast : last = [] ∨ ∃ r, last = [acquireCall sv " refused" r] ∨
      last = [acquireCall sv " failed" r]) : Took sv rs [] failure d d' where
  locks := List.nil_prefix
  complete := fun h => (hcomplete h).symm
  flavour := by rw [hm]; exact hf
  isAlive := by rw [hm]; exact halive
  held := by rw [hm, List.append_nil]
  calls := ⟨last, by rw [List.map_nil, List.append_nil]; exact hcalls, hlast⟩

theorem Took.cons {d₁ : Desk} {newly : List Requirement} {failure : Option Failure}
    (hm : d₁.manager = d.manager.hold r) (hcalls : d₁.calls = d.calls ++ [acquireCall sv " ok" r])
    (h : Took sv rs newly failure d₁ d') : Took sv (r :: rs) (r :: newly) failure d d' where
  locks := (List.prefix_cons_inj r).2 h.locks
  complete := fun hnone => congrArg (r :: ·) (h.complete hnone)
  flavour := h.flavour
  isAlive := h.isAlive
  held := by
    rw [h.held, hm]
    exact List.append_assoc d.manager.held [r] newly
  calls := by
    obtain ⟨last, hlog, hlast⟩ := h.calls
    refine ⟨last, ?_, hlast⟩
    rw [hlog, hcalls, List.append_assoc d.calls]
    rfl

/-- **Taking locks**: those that the service granted, up to the first that it didn't. -/
theorem took_takeEach (taken rs : List Requirement) (hf : d.manager.flavour = .service sv)
    (halive : d.manager.isDisposed = false) :
    ∃ newly failure d', (takeEach taken rs).run.run d = (.ok (taken ++ newly, failure), d') ∧
      Took sv rs newly failure d d' := by
  induction rs generalizing taken d with
  | nil =>
    refine ⟨[], none, d, ?_, .nil (fun _ => rfl) hf halive rfl (List.append_nil _).symm (.inl rfl)⟩
    rw [List.append_nil]
    rfl
  | cons r rest ih =>
    rw [run_takeEach_cons]
    obtain ⟨x, d₁, hrun, hacquired⟩ := acquired_acquire hf halive r
    rw [hrun]
    cases hacquired with
    | done hm hcalls =>
      obtain ⟨newly, failure, d', hrest, htook⟩ := ih (taken ++ [r])
        (d := d₁) (by rw [hm]; exact hf) (by rw [hm]; exact halive)
      refine ⟨r :: newly, failure, d', ?_, htook.cons hm hcalls⟩
      rw [List.append_assoc, List.singleton_append] at hrest
      exact hrest
    | @known e hm hcalls =>
      refine ⟨[], some e, d₁, ?_, .nil nofun hf halive hm ?_ (.inl rfl)⟩
      · rw [List.append_nil]
      · rw [hcalls, List.append_nil]
    | @failed e word hword hm hcalls =>
      refine ⟨[], some e, d₁, ?_, .nil nofun hf halive hm hcalls (.inr ⟨r, ?_⟩)⟩
      · rw [List.append_nil]
      · rcases hword with rfl | rfl
        · exact .inl rfl
        · exact .inr rfl

/-! ### Giving them back -/

/-- What giving a lock back to a service comes to. -/
inductive Released (r : Requirement) (d d' : Desk) : Except Failure Unit → Prop where
  | done (hreply : ∀ e, d.replies.head? ≠ some (.failed e)) (hm : d'.manager = d.manager.drop r) :
      Released r d d' (.ok ())
  | failed {e : Failure} (hreply : d.replies.head? = some (.failed e))
      (hm : d'.manager = d.manager) : Released r d d' (.error e)

theorem released_release (hf : d.manager.flavour = .service sv)
    (halive : d.manager.isDisposed = false) (hr : r ∈ d.manager.held) :
    ∃ x d', (release r).run.run d = (x, d') ∧ Released r d d' x ∧
      d'.calls = d.calls ++ [releaseCall sv r] ∧ d'.replies = d.replies.tail := by
  have hgone := calls_told (d := d) (releaseCall sv r) d.manager r .unlocked
  have hcontains : d.manager.held.contains r = true := List.contains_iff_mem.2 hr
  unfold release
  simp only [run_bind, run_ensureAlive, run_get, halive, hf, hcontains, Bool.false_eq_true,
    if_false, Bool.not_true, run_hear, run_nextReply]
  cases hreply : d.replies.head? with
  | none => exact ⟨_, _, rfl, .done (by simp [hreply]) rfl, hgone, rfl⟩
  | some reply =>
    cases reply with
    | granted => exact ⟨_, _, rfl, .done (by simp [hreply]) rfl, hgone, rfl⟩
    | declined => exact ⟨_, _, rfl, .done (by simp [hreply]) rfl, hgone, rfl⟩
    | failed e => exact ⟨_, _, rfl, .failed hreply rfl, calls_append d _, rfl⟩

theorem run_release_disposed (hd : d.manager.isDisposed = true) (r : Requirement) :
    (release r).run.run d = (.error (.disposed d.manager.flavour.component), d) := by
  unfold release
  rw [run_bind, run_ensureAlive, hd]
  rfl

/-- Why locks were left behind. -/
inductive Halt (d : Desk) (tried : List Requirement) : Failure → Prop where
  | disposed (hd : d.manager.isDisposed = true) (htried : tried = []) :
      Halt d tried (.disposed d.manager.flavour.component)
  /-- The service failed to take the last of the locks back that it was asked for. -/
  | failed (before : List Requirement) {r : Requirement} {e : Failure}
      (htried : tried = before ++ [r]) (hreply : d.replies[before.length]? = some (.failed e)) :
      Halt d tried e

/-- What giving locks back to a service one after the other comes to: the service is asked for those
that were tried, and the others are left behind. -/
structure Cleared (sv : Service) (rs tried rest : List Requirement) (x : Except Failure Unit)
    (d d' : Desk) : Prop where
  locks : rs = tried ++ rest
  calls : d'.calls = d.calls ++ tried.map (releaseCall sv)
  left : d.manager.isDisposed = false → ∀ r ∈ rest, r ∈ d'.manager.held
  /-- Nothing is tried after a failure. -/
  brief : ∀ k e, d.replies[k]? = some (.failed e) → tried.length ≤ k + 1
  ended : x = .ok () ∧ rest = [] ∨ ∃ e, x = .error e ∧ Halt d tried e

theorem Keeps.reverse (hd : Keeps sv rs d) : Keeps sv rs.reverse d :=
  ⟨hd.flavour, fun halive r hr => hd.held halive r (List.mem_reverse.1 hr)⟩

theorem Keeps.drop {d₁ : Desk} (hd : Keeps sv (r :: rs) d) (hnew : r ∉ rs)
    (hm : d₁.manager = d.manager.drop r) : Keeps sv rs d₁ := by
  refine ⟨by rw [hm]; exact hd.flavour, fun halive x hx => ?_⟩
  rw [hm] at halive ⊢
  refine List.mem_filter.2 ⟨hd.held halive x (List.mem_cons_of_mem r hx), ?_⟩
  simpa using ne_of_mem_of_not_mem hx hnew

/-- A lock that was given back comes before what is tried of the others. -/
theorem Cleared.cons {d₁ : Desk} {tried rest : List Requirement} {x : Except Failure Unit}
    (halive : d.manager.isDisposed = false) (hm : d₁.manager = d.manager.drop r)
    (hreply : ∀ e, d.replies.head? ≠ some (.failed e))
    (hcalls : d₁.calls = d.calls ++ [releaseCall sv r]) (hreplies : d₁.replies = d.replies.tail)
    (h : Cleared sv rs tried rest x d₁ d') : Cleared sv (r :: rs) (r :: tried) rest x d d' := by
  have halive₁ : d₁.manager.isDisposed = false := by
    rw [hm]
    exact halive
  have hshift : ∀ k, d₁.replies[k]? = d.replies[k + 1]? := fun k => by
    rw [hreplies, List.getElem?_tail]
  constructor
  case locks => exact congrArg (r :: ·) h.locks
  case calls =>
    rw [h.calls, hcalls, List.append_assoc]
    rfl
  case left => exact fun _ => h.left halive₁
  case brief =>
    intro k e hk
    cases k with
    | zero =>
      rw [← List.head?_eq_getElem?] at hk
      exact absurd hk (hreply e)
    | succ k =>
      rw [← hshift] at hk
      exact Nat.succ_le_succ (h.brief k e hk)
  case ended =>
    rcases h.ended with hok | ⟨e, hx, hhalt⟩
    · exact .inl hok
    refine .inr ⟨e, hx, ?_⟩
    cases hhalt with
    | disposed hdead =>
      rw [halive₁] at hdead
      cases hdead
    | failed before htried hfailed =>
      rw [hshift] at hfailed
      exact .failed (r :: before) (congrArg (r :: ·) htried) hfailed

/-- **Giving locks back**: the service is asked for them in their order, up to the first call that
fails. -/
theorem cleared_releaseEach (hd : Keeps sv rs d) (hnodup : rs.Nodup) :
    ∃ x d' tried rest, (releaseEach rs).run.run d = (x, d') ∧
      Cleared sv rs tried rest x d d' := by
  induction rs generalizing d with
  | nil =>
    refine ⟨.ok (), d, [], [], rfl, rfl, ?_, fun _ => nofun, fun _ _ _ => Nat.zero_le _,
      .inl ⟨rfl, rfl⟩⟩
    exact (List.append_nil _).symm
  | cons r rs ih =>
    obtain ⟨hnew, hnodup⟩ := List.nodup_cons.1 hnodup
    rw [run_releaseEach_cons]
    cases halive : d.manager.isDisposed with
    | true =>
      rw [run_release_disposed halive]
      refine ⟨_, d, [], r :: rs, rfl, rfl, ?_, ?_, fun _ _ _ => Nat.zero_le _,
        .inr ⟨_, rfl, .disposed halive rfl⟩⟩
      · exact (List.append_nil _).symm
      · rw [halive]
        exact nofun
    | false =>
      obtain ⟨x, d₁, hrun, hreleased, hcalls, hreplies⟩ :=
        released_release hd.flavour halive (hd.held halive r List.mem_cons_self)
      rw [hrun]
      cases hreleased with
      | @failed e hreply hm =>
        refine ⟨.error e, d₁, [r], rs, rfl, rfl, hcalls, fun _ x hx => ?_,
          fun k _ _ => Nat.le_add_left 1 k, .inr ⟨e, rfl, Halt.failed [] rfl ?_⟩⟩
        · rw [hm]
          exact hd.held halive x (List.mem_cons_of_mem r hx)
        · rw [List.length_nil, ← List.head?_eq_getElem?]
          exact hreply
      | done hreply hm =>
        obtain ⟨x, d', tried, rest, hrest, hcleared⟩ := ih (hd.drop hnew hm) hnodup
        exact ⟨x, d', r :: tried, rest, hrest, hcleared.cons halive hm hreply hcalls hreplies⟩

/-- If no call fails before the last, nothing is left behind. -/
theorem Cleared.rest_eq_nil {tried rest : List Requirement} {x : Except Failure Unit}
    (h : Cleared sv rs tried rest x d d') (halive : d.manager.isDisposed = false)
    (hreplies : ∀ k e, k + 1 < rs.length → d.replies[k]? ≠ some (.failed e)) : rest = [] := by
  rcases h.ended with ⟨-, hrest⟩ | ⟨e, -, hhalt⟩
  · exact hrest
  cases hhalt with
  | disposed hdead => rw [halive] at hdead; cases hdead
  | failed before htried hreply =>
    by_contra hrest
    refine hreplies before.length e ?_ hreply
    have hpos : 0 < rest.length := List.length_pos_iff.2 hrest
    rw [h.locks, htried, List.length_append, List.length_append, List.length_singleton]
    omega

/-! ### A whole hold -/

/-- The locks that a hold gives back are those that the service granted, and if its block didn't
give them away they are still held. -/
theorem took_departure (hf : d.manager.flavour = .service sv)
    (halive : d.manager.isDisposed = false) (s : LockSet) (block : AtDesk α)
    (hblock : ∀ taken d₁, (enter s).run.run d = (.ok taken, d₁) →
      Keeps sv taken (block.run.run d₁).2) :
    let x := departure s block d
    Keeps sv x.taken x.desk ∧ ∃ failure d₁,
      (takeEach [] s.requirements).run.run d = (.ok (x.taken, failure), d₁) ∧
      Took sv s.requirements x.taken failure d d₁ := by
  obtain ⟨taken, failure, d₁, hrun, htook⟩ := took_takeEach [] s.requirements hf halive
  rw [List.nil_append] at hrun
  cases failure with
  | none =>
    have henter : (enter s).run.run d = (.ok taken, d₁) := by rw [run_enter, hrun]
    rw [departure, hrun]
    exact ⟨hblock taken d₁ henter, none, d₁, rfl, htook⟩
  | some e =>
    rw [departure, hrun]
    refine ⟨⟨htook.flavour, fun _ r hr => ?_⟩, some e, d₁, rfl, htook⟩
    rw [htook.held]
    exact List.mem_append_right _ hr

/-- **The way out of a hold.** Whatever the service grants and fails at, and however the block ends,
the service is asked once, in reverse, to take back each lock that it granted, up to the first call
that fails; if none fails before the last, that is all of them. -/
theorem holding_clears (hf : d.manager.flavour = .service sv)
    (halive : d.manager.isDisposed = false) (s : LockSet) (block : AtDesk α)
    (hblock : ∀ taken d₁, (enter s).run.run d = (.ok taken, d₁) →
      Keeps sv taken (block.run.run d₁).2) :
    let x := departure s block d
    (∃ failure d₁, (takeEach [] s.requirements).run.run d = (.ok (x.taken, failure), d₁) ∧
      Took sv s.requirements x.taken failure d d₁) ∧
    ∃ y d' tried rest, (holding s block).run.run d = (y >>= fun _ => x.result, d') ∧
      Cleared sv x.taken.reverse tried rest y x.desk d' ∧ tried.Nodup ∧
      (x.desk.manager.isDisposed = false →
        (∀ k e, k + 1 < x.taken.length → x.desk.replies[k]? ≠ some (.failed e)) → rest = []) := by
  intro x
  obtain ⟨hkeeps, failure, d₁, hrun, htook⟩ := took_departure hf halive s block hblock
  have hnodup : x.taken.reverse.Nodup :=
    List.nodup_reverse.2 (s.nodup.sublist htook.locks.sublist)
  obtain ⟨y, d', tried, rest, hclear, hcleared⟩ := cleared_releaseEach hkeeps.reverse hnodup
  refine ⟨⟨failure, d₁, hrun, htook⟩, y, d', tried, rest, ?_, hcleared, ?_,
    fun hserves hreplies => ?_⟩
  · have hleave : (leave x.taken).run.run x.desk = (y, d') := hclear
    rw [run_holding]
    dsimp only
    rw [hleave]
  · rw [hcleared.locks] at hnodup
    exact hnodup.of_append_left
  · exact hcleared.rest_eq_nil hserves (by rwa [List.length_reverse])

/-- A block fails, and so does the last call on the way out; both locks of a partition were asked
for. -/
theorem holding_clears_partition :
    let sv : Service := ⟨"/locks/", []⟩
    let s : LockSet := ⟨[⟨.shared, "d.t"⟩, ⟨.exclusive, "d.t/p"⟩], by decide⟩
    let d := onService sv [] [.granted, .granted, .granted, .failed .storage]
    let block : AtDesk Unit := throw .member
    let x := departure s block d
    x.taken = s.requirements ∧ x.result = .error .member ∧
      ∃ d', (holding s block).run.run d = (.error .storage, d') ∧
        d'.calls = x.desk.calls ++
          [releaseCall sv ⟨.exclusive, "d.t/p"⟩, releaseCall sv ⟨.shared, "d.t"⟩] := by
  intro sv s d block x
  obtain ⟨-, y, d', tried, rest, hrun, hcleared, -, hall⟩ :=
    holding_clears (d := d) rfl rfl s block (fun taken d₁ h => by
      have henter : (enter s).run.run d = (.ok s.requirements, _) := rfl
      rw [henter] at h
      cases h
      exact ⟨rfl, fun _ r hr => hr⟩)
  have hrest : rest = [] := hall rfl fun k e hk hreply => by
    have hzero : k = 0 := by
      have hlength : k + 1 < 2 := hk
      omega
    subst hzero
    cases hreply
  have htried : [⟨.exclusive, "d.t/p"⟩, ⟨.shared, "d.t"⟩] = tried := by
    have hlocks := hcleared.locks
    rw [hrest, List.append_nil] at hlocks
    exact hlocks
  refine ⟨rfl, rfl, d', ?_, ?_⟩
  · have hend : ((holding s block).run.run d).1 = .error .storage := rfl
    rw [hrun] at hend ⊢
    exact congrArg (·, d') hend
  · rw [hcleared.calls, ← htried]
    rfl

/-- **Locks that aren't given back**: the client grants both locks of a partition and fails to take
the first of them back, so that it is never asked to take the other one back. Nor is it asked for
either of them if the manager, told that it holds no locks, was disposed of in the block. -/
theorem untried_after_failure :
    let sv : Service := ⟨"/locks/", []⟩
    let table : Requirement := ⟨.shared, "d.t"⟩
    let partition : Requirement := ⟨.exclusive, "d.t/p"⟩
    let s : LockSet := ⟨[table, partition], by decide⟩
    (let d := onService sv [] [.granted, .granted, .failed .storage]
      let x := departure s (pure ()) d
      let d' := ((holding s (pure ())).run.run d).2
      x.taken = [table, partition] ∧ x.desk.manager.held = [table, partition] ∧
        d'.calls = x.desk.calls ++ [releaseCall sv partition] ∧ table ∈ d'.manager.held) ∧
    (let block : AtDesk Unit := do
        setState table .unlocked
        setState partition .unlocked
        dispose
      let x := departure s block (onService sv [] [])
      let y := (holding s block).run.run (onService sv [] [])
      x.taken = [table, partition] ∧
        x.desk.calls =
          [acquireCall sv " ok" table, acquireCall sv " ok" partition, "stop", "close"] ∧
        y.1 = .error (.disposed (Flavour.service sv).component) ∧ y.2.calls = x.desk.calls) := by
  intro sv table partition s
  constructor
  · exact ⟨rfl, rfl, rfl, List.mem_cons_self⟩
  · exact ⟨rfl, rfl, rfl, rfl⟩

end Desk

end CatalogReplication.Lock
