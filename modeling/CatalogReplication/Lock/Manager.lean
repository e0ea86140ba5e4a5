import CatalogReplication.Failure
import CatalogReplication.Lock.NodeName
import CatalogReplication.Lock.Registry
import CatalogReplication.Lock.State

/-!
# Lock managers

A manager takes and gives back locks for one worker. There are three flavours: one that doesn't
lock at all, one on the registry of the process, and one on the nodes of a coordination service. The
operations work on a desk, which is the manager, the registry that it shares, and a log of what
listeners and the service hear.
-/

namespace CatalogReplication.Lock

/-- How a coordination service is used. -/
structure Service where
  basePath : String
  /-- The nodes that the service doesn't hand out. -/
  refused : List String := []
deriving Repr

/-- How a manager locks. -/
inductive Flavour where
  | none
  /-- On the registry; a request either waits for a lock without end or gives up in time. -/
  | process (isPatient : Bool)
  | service (s : Service)
deriving Repr

/-- The component that a flavour belongs to. -/
def Flavour.component : Flavour → String
  | .none => "pydiverse.replication.backend.lock.nolock.NoLockManager"
  | .process _ => "pydiverse.replication.backend.lock.nolock.ThreadLockManager"
  | .service _ => "pydiverse.replication.backend.lock.zookeeper.ZooKeeperLockManager"

/-- A lock manager. -/
structure Manager where
  flavour : Flavour
  states : States := []
  /-- The locks that the manager has taken from the registry or the service. -/
  held : List Requirement := []
  listeners : List String := []
  isDisposed : Bool := false
deriving Repr

/-- What is heard from a manager. -/
inductive Heard where
  | transition (listener : String) (lock : Requirement) (old new : LockState)
  | service (text : String)
deriving Repr

/-- What a service answers to a call about a lock. -/
inductive Reply where
  | granted
  | declined
  | failed (e : Failure)
deriving Repr

/-- A manager at work. -/
structure Desk where
  registry : Registry
  manager : Manager
  log : List Heard := []
  /-- What the service answers to its next calls. After these it grants what it doesn't refuse. -/
  replies : List Reply := []

/-- A step at a desk. -/
abbrev AtDesk := ExceptT Failure (StateM Desk)

namespace Desk

/-- Refuses to work with a manager that is disposed of. -/
def ensureAlive : AtDesk Unit := do
  let m := (← get).manager
  if m.isDisposed then throw (.disposed m.flavour.component)

/-- Adds to the log. -/
def hear (entries : List Heard) : AtDesk Unit :=
  modify fun d => { d with log := d.log ++ entries }

/-- Changes the manager. -/
def update (f : Manager → Manager) : AtDesk Unit :=
  modify fun d => { d with manager := f d.manager }

/-- Changes the registry. -/
def register (f : Registry → Registry) : AtDesk Unit :=
  modify fun d => { d with registry := f d.registry }

/-- What the listeners of a manager hear if the state of a lock changes. -/
def transitions (m : Manager) (r : Requirement) (new : LockState) : List Heard :=
  let old := m.states.state r
  if old = new then [] else m.listeners.map fun l => .transition l r old new

/-- Sets the state of a lock and tells the listeners if it changed. -/
def setState (r : Requirement) (new : LockState) : AtDesk Unit := do
  let m := (← get).manager
  update fun m => { m with states := m.states.update r new }
  hear (transitions m r new)

/-- Notes that a lock was taken. -/
def hold (r : Requirement) : AtDesk Unit := do
  update fun m => { m with held := m.held ++ [r] }
  setState r .locked

/-- Notes that a lock was given back. -/
def drop (r : Requirement) : AtDesk Unit := do
  update fun m => { m with held := m.held.filter fun x => !(x == r) }
  setState r .unlocked

/-- How a service calls a kind of lock. -/
def serviceKind : Kind → String
  | .shared => "read"
  | .exclusive => "write"

/-- Takes what the service answers to a call; `usual` is what it answers by itself. -/
def nextReply (usual : Reply) : AtDesk Reply := do
  let d ← get
  match d.replies with
  | [] => return usual
  | reply :: rest =>
    set { d with replies := rest }
    return reply

/-- The path of the node that keeps a lock. -/
def nodePath (s : Service) (r : Requirement) : String := s.basePath ++ nodeName r.key

/-- Takes a lock; answers whether it was there to be taken at once. -/
def tryAcquire (r : Requirement) : AtDesk Bool := do
  ensureAlive
  let d ← get
  match d.manager.flavour with
  | .none =>
    setState r .locked
    return true
  | .process isPatient =>
    if d.manager.held.contains r then throw (.lock (.alreadyAcquired r))
    if d.registry.grants r then
      register fun g => g.grant r
      hold r
      return true
    else if isPatient then return false
    else throw (.lock (.timedOut r))
  | .service s =>
    if d.manager.held.contains r then throw (.lock (.alreadyAcquired r))
    let call := s!"{serviceKind r.kind} acquire {nodePath s r}"
    match ← nextReply (if s.refused.contains (nodeName r.key) then .declined else .granted) with
    | .granted =>
      hear [.service (call ++ " ok")]
      hold r
      return true
    | .declined =>
      hear [.service (call ++ " refused")]
      throw (.lock (.refused r))
    | .failed e =>
      hear [.service (call ++ " failed")]
      throw e

/-- Takes a lock that nobody will give back while it is waited for. -/
def acquire (r : Requirement) : AtDesk Unit := do
  if !(← tryAcquire r) then throw (.lock (.timedOut r))

/-- Gives a lock back. -/
def release (r : Requirement) : AtDesk Unit := do
  ensureAlive
  let m := (← get).manager
  match m.flavour with
  | .none => setState r .unlocked
  | .process _ =>
    if !m.held.contains r then throw (.lock (.notFound r))
    register fun g => g.giveBack r
    drop r
  | .service s =>
    if !m.held.contains r then throw (.lock (.notFound r))
    hear [.service s!"{serviceKind r.kind} release {nodePath s r}"]
    match ← nextReply .granted with
    | .failed e => throw e
    | .granted | .declined => drop r

/-- Gives locks back one after the other; the first that can't be given back ends it. -/
def releaseEach : List Requirement → AtDesk Unit
  | [] => pure ()
  | r :: rest => do
    release r
    releaseEach rest

/-- Gives back all locks that aren't unlocked. -/
def releaseAll : AtDesk Unit := do
  ensureAlive
  releaseEach (Assoc.keys (← get).manager.states)

/-- Ends the use of a manager. -/
def dispose : AtDesk Unit := do
  releaseAll
  match (← get).manager.flavour with
  | .none | .process _ => pure ()
  | .service _ =>
    hear [.service "stop", .service "close"]
    update fun m => { m with states := [], held := [] }
  update fun m => { m with isDisposed := true }

/-- Takes locks one after the other; answers those that were taken, and what ended it. -/
def takeEach (taken : List Requirement) : List Requirement →
    AtDesk (List Requirement × Option Failure)
  | [] => return (taken, none)
  | r :: rest => do
    let result ← ExceptT.lift (acquire r).run
    match result with
    | .ok () => takeEach (taken ++ [r]) rest
    | .error e => return (taken, some e)

/-- Gives back what was taken, in reverse order. -/
def leave (taken : List Requirement) : AtDesk Unit := releaseEach taken.reverse

/-- Takes all locks of a set; if one can't be taken, those that were taken are given back. -/
def enter (s : LockSet) : AtDesk (List Requirement) := do
  let (taken, failure) ← takeEach [] s.requirements
  match failure with
  | none => return taken
  | some e =>
    leave taken
    throw e

/-- The state of a lock. -/
def stateOf (r : Requirement) : AtDesk LockState := do
  ensureAlive
  return (← get).manager.states.state r

/-- What a service reports about its connection. -/
inductive Connection where
  | suspended
  | lost
  | connected
deriving DecidableEq, Repr

/-- The state of the locks after a report. -/
def Connection.lockState : Connection → LockState
  | .suspended => .uncertain
  | .lost => .invalid
  | .connected => .locked

/-- Sets the state of several locks. -/
def setEach (new : LockState) : List Requirement → AtDesk Unit
  | [] => pure ()
  | r :: rest => do
    setState r new
    setEach new rest

/-- Hears a report of the service. -/
def hearConnection (c : Connection) : AtDesk Unit := do
  ensureAlive
  setEach c.lockState (← get).manager.held

/-- Adds a listener. -/
def listen (name : String) : AtDesk Unit := do
  ensureAlive
  update fun m =>
    if m.listeners.contains name then m else { m with listeners := m.listeners ++ [name] }

/-- Takes a listener away. -/
def unlisten (name : String) : AtDesk Unit := do
  ensureAlive
  if (← get).manager.listeners.contains name then
    update fun m => { m with listeners := m.listeners.filter fun l => l != name }
  else throw .keyMissing

end Desk

end CatalogReplication.Lock
