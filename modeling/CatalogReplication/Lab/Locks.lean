import CatalogReplication.Lock.Hall

/-!
# Trying out lock managers

A script of steps with several lock managers, and the record of what each step showed: its result,
what listeners and services heard, and the states of all locks afterwards.
-/

namespace CatalogReplication.Lab

open Lock

/-- A step of a script. -/
inductive LockStep where
  | acquire (manager : String) (lock : Requirement)
  | release (manager : String) (lock : Requirement)
  | getState (manager : String) (lock : Requirement)
  | setState (manager : String) (lock : Requirement) (state : LockState)
  | releaseAll (manager : String)
  | dispose (manager : String)
  | listen (manager : String) (listener : String)
  /-- Adds a listener that can't be called. -/
  | listenInvalid (manager : String)
  | unlisten (manager : String) (listener : String)
  | held (manager : String)
  | registry
  | lockPath (manager : String) (lock : Requirement)
  /-- Does steps while holding locks, and fails at their end if told to; a manager that is called
  is only found to be disposed of when the block is entered. -/
  | hold (manager : String) (locks : List Requirement) (body : List LockStep)
      (failure : Option Failure) (isCall : Bool)
  /-- The service of a manager reports on its connection, in words that may mean nothing. -/
  | connection (manager : String) (report : Option Desk.Connection)
  | request (manager : String) (lock : Requirement) (name : String)

instance : Inhabited LockStep := ⟨.registry⟩

mutual

/-- What a step answers. -/
inductive LockAnswer where
  | nothing
  | state (s : LockState)
  | locks (names : List String)
  | registry (r : Registry)
  | path (text : String)
  /-- The entries of the steps inside, if they were reached, and how it ended. -/
  | held (body : Option (List LockEntry)) (failure : Option Failure)

/-- What a step showed. -/
inductive LockEntry where
  | mk (answer : Except Failure LockAnswer) (states : List (String × Option States))
      (heard : List (String × Heard)) (requests : List (String × RequestState))

end

namespace LockStep

/-- The states of the locks of all managers; none if one is disposed of. -/
def allStates (h : Hall) : List (String × Option States) :=
  h.managers.map fun e => (e.1, if e.2.isDisposed then none else some e.2.states)

/-- Ends a step: waiting requests are granted, and what was heard is told. -/
def finish (answer : Except Failure LockAnswer) (h : Hall) : LockEntry × Hall :=
  let h := h.settle
  (.mk answer (allStates h) h.log h.requests, { h with log := [] })

/-- The answer of a step with a manager that answers with something. -/
def answering {α : Type} (f : α → LockAnswer) (r : Except Failure α × Hall) :
    Except Failure LockAnswer × Hall :=
  match r with
  | (.ok a, h) => (.ok (f a), h)
  | (.error e, h) => (.error e, h)

/-- Does a step that answers with nothing. -/
def simply (m : String) (step : AtDesk Unit) (h : Hall) : Except Failure LockAnswer × Hall :=
  answering (fun _ => .nothing) (h.withManager m step)

/-- The names of the locks that a manager of the process holds, in increasing order. -/
def heldNames : AtDesk (List String) := do
  Desk.ensureAlive
  let m := (← get).manager
  match m.flavour with
  | .process _ => return (m.held.map Requirement.text).mergeSort fun a b => !decide (b < a)
  | _ => throw .member

/-- The path of the node that keeps a lock. -/
def pathOf (lock : Requirement) : AtDesk String := do
  Desk.ensureAlive
  match (← get).manager.flavour with
  | .service s => return Desk.nodePath s lock
  | _ => throw .member

/-- Sets the state of a lock. -/
def setAlive (lock : Requirement) (state : LockState) : AtDesk Unit := do
  Desk.ensureAlive
  Desk.setState lock state

/-- Refuses a listener that can't be called. -/
def refuseListener : AtDesk Unit := do
  Desk.ensureAlive
  throw .notCallable

/-- A report of the service of a manager. -/
def report : Option Desk.Connection → AtDesk Unit
  | none => pure ()
  | some c => Desk.hearConnection c

mutual

/-- Does a step. -/
def run : LockStep → Hall → LockEntry × Hall
  | .acquire m r, h => done (simply m (Desk.acquire r) h)
  | .release m r, h => done (simply m (Desk.release r) h)
  | .getState m r, h => done (answering .state (h.withManager m (Desk.stateOf r)))
  | .setState m r s, h => done (simply m (setAlive r s) h)
  | .releaseAll m, h => done (simply m Desk.releaseAll h)
  | .dispose m, h => done (simply m Desk.dispose h)
  | .listen m l, h => done (simply m (Desk.listen l) h)
  | .listenInvalid m, h => done (simply m refuseListener h)
  | .unlisten m l, h => done (simply m (Desk.unlisten l) h)
  | .held m, h => done (answering .locks (h.withManager m heldNames))
  | .registry, h => done (.ok (.registry h.registry), h)
  | .lockPath m r, h => done (answering .path (h.withManager m (pathOf r)))
  | .connection m c, h => done (simply m (report c) h)
  | .request m r name, h => done (.ok .nothing, h.request name m r)
  | .hold m locks body failure isCall, h =>
    match h.withManager m Desk.ensureAlive, isCall with
    | (.error e, h'), false => done (.error e, h')
    | (.error e, h'), true => done (.ok (.held none (some e)), h')
    | (.ok (), h'), _ =>
      match h'.withManager m (Desk.enter (LockSet.ofList locks)) with
      | (.error e, h') => done (.ok (.held none (some e)), h')
      | (.ok taken, h') =>
        let (entries, h') := runAll body h'
        match h'.withManager m (Desk.leave taken) with
        | (.ok (), h') => done (.ok (.held (some entries) failure), h')
        | (.error e, h') => done (.ok (.held (some entries) (some e)), h')
where
  /-- Ends a step. -/
  done (r : Except Failure LockAnswer × Hall) : LockEntry × Hall := finish r.1 r.2

/-- Does steps one after the other. -/
def runAll : List LockStep → Hall → List LockEntry × Hall
  | [], h => ([], h)
  | s :: rest, h =>
    let (entry, h) := run s h
    let (entries, h) := runAll rest h
    (entry :: entries, h)

end

end LockStep

/-- A manager at the start of a script; a service that isn't connected is started. -/
structure ManagerStart where
  name : String
  flavour : Flavour
  isConnected : Bool := false

/-- The managers at the start of a script. -/
def openHall (starts : List ManagerStart) : Hall :=
  { managers := starts.map fun s => (s.name, { flavour := s.flavour })
    log := starts.filterMap fun s =>
      match s.flavour with
      | .service _ => if s.isConnected then none else some (s.name, .service "start")
      | _ => none }

end CatalogReplication.Lab
