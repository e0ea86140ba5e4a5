import CatalogReplication.Lock.Manager

/-!
# Managers side by side

Several managers of one process, each used by a worker of its own, and the requests that wait for a
lock. Whenever something changes, waiting requests are granted in the order in which they came, as
long as one can be granted.
-/

namespace CatalogReplication.Lock

/-- A request that waits. -/
structure Waiter where
  name : String
  manager : String
  lock : Requirement
deriving Repr

/-- What became of a request made in the background. -/
inductive RequestState where
  | waiting
  | acquired
  | failed (e : Failure)
deriving Repr

/-- The managers of a process and the requests in the background. -/
structure Hall where
  registry : Registry := {}
  managers : Assoc String Manager := []
  waiters : List Waiter := []
  requests : Assoc String RequestState := []
  log : List (String × Heard) := []

namespace Hall

/-- Does a step with one of the managers. -/
def withManager {α : Type} (name : String) (step : AtDesk α) (h : Hall) : Except Failure α × Hall :=
  match h.managers.lookup name with
  | none => (.error .keyMissing, h)
  | some m =>
    let (result, d) := step.run.run { registry := h.registry, manager := m }
    (result, { h with
      registry := d.registry
      managers := Assoc.put name d.manager h.managers
      log := h.log ++ d.log.map fun e => (name, e) })

/-- Notes what became of a request. -/
def note (name : String) (state : RequestState) (h : Hall) : Hall :=
  { h with requests := Assoc.put name state h.requests }

/-- Ends the wait of a request whose lock has become free. -/
def grantWaiter (w : Waiter) (h : Hall) : Hall :=
  let registry := (h.registry.stopWaiting w.lock).grant w.lock
  let finish : AtDesk Unit := do
    Desk.ensureAlive
    Desk.hold w.lock
  match withManager w.manager finish { h with registry } with
  | (.ok (), h') => note w.name .acquired h'
  | (.error e, h') => note w.name (.failed e) h'

/-- Takes the first request that can be granted out of a list. -/
def firstGrantable (g : Registry) : List Waiter → Option (Waiter × List Waiter)
  | [] => none
  | w :: rest =>
    if g.grants w.lock then some (w, rest)
    else (firstGrantable g rest).map fun r => (r.1, w :: r.2)

/-- Grants up to `n` waiting requests. -/
def settleUpTo : Nat → Hall → Hall
  | 0, h => h
  | n + 1, h =>
    match firstGrantable h.registry h.waiters with
    | none => h
    | some (w, rest) => settleUpTo n (grantWaiter w { h with waiters := rest })

/-- Grants waiting requests as long as one can be granted. -/
def settle (h : Hall) : Hall := settleUpTo h.waiters.length h

/-- Requests a lock in the background. -/
def request (name manager : String) (lock : Requirement) (h : Hall) : Hall :=
  match withManager manager (Desk.tryAcquire lock) h with
  | (.ok true, h') => note name .acquired h'
  | (.error e, h') => note name (.failed e) h'
  | (.ok false, h') =>
    note name .waiting
      { h' with
        registry := h'.registry.startWaiting lock
        waiters := h'.waiters ++ [{ name, manager, lock }] }

end Hall

end CatalogReplication.Lock
