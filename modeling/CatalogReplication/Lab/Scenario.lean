import CatalogReplication.Lab.World
import CatalogReplication.Lock.Manager

/-!
# Scenarios

A script of steps with two clusters: requests to their catalogs, work on their files, faults, and
runs of tasks, with or without locks. Every step answers with what it showed.
-/

namespace CatalogReplication.Lab

/-- Where the catalog of a cluster comes from. -/
inductive CatalogSource where
  | keyed
  | relational (url schema : Value)
deriving Repr

/-- A cluster of a scenario. -/
structure Side where
  cluster : Cluster
  catalogSource : CatalogSource
  catalog : Nat

/-- The two sides of a scenario. -/
inductive Which where
  | source
  | destination
deriving DecidableEq, Repr

/-- The kinds of tasks. -/
inductive TaskKind where
  | table
  | partition
deriving DecidableEq, Repr

/-- Which task to build. -/
structure TaskChoice where
  spec : Except Failure Spec
  /-- The kind of the task, if it is forced. -/
  kind : Option TaskKind := none
  locationHint : Value := .null

/-- The task that was chosen. -/
def TaskChoice.task (c : TaskChoice) : Except Failure ReplicationTask := do
  let spec ← c.spec
  match c.kind with
  | some .partition => ReplicationTask.forPartition spec
  | some .table => ReplicationTask.forTable spec c.locationHint
  | none =>
    if spec.isPartition then ReplicationTask.forPartition spec
    else ReplicationTask.forTable spec c.locationHint

/-- The locks under which a task is run. -/
structure Locking where
  flavour : Lock.Flavour
  /-- The locks that someone else holds meanwhile. -/
  blocked : List Lock.Requirement := []

/-- What a step may set. -/
structure Settings where
  allowCopy : Option Value := none
  stagingRoot : Option Value := none
  policy : Option ConflictPolicy := none
  preserved : Option Value := none
  transfer : Option Value := none

/-- A step of a scenario. -/
inductive Step where
  | clock (now : Int)
  | set (s : Settings)
  | catalog (on : Which) (r : Except Failure Catalog.Request)
  | vanish (on : Which) (spec : Except Failure Spec)
  | breakDown (on : Which)
  | dispose (on : Which)
  | reopen (on : Which)
  | catalogFault (on : Which) (f : Fault)
  | transferFault (f : Fault)
  | fileFault (f : FileFault)
  | write (location content : String)
  | makeFolder (location : String)
  | remove (location : String)
  | transfer (r : Transfer.Request)
  | task (c : TaskChoice)
  | run (c : TaskChoice) (locking : Option Locking)
  | dump (source destination files : Bool)

/-- A change of the state of a lock. -/
structure LockChange where
  lock : Lock.Requirement
  old : Lock.LockState
  new : Lock.LockState

/-- What a run showed. -/
structure RunReport where
  outcome : Except Failure Outcome
  events : List Event := []
  warnings : List Overwrite := []
  lockChanges : Option (List LockChange) := none

/-- What a task looks like. -/
structure TaskReport where
  task : ReplicationTask
  text : String
  allowCopy : Value
  stagingRoot : Value

/-- What is stored everywhere. -/
structure Dump where
  source : Option (Except Failure World.CatalogDump) := none
  destination : Option (Except Failure World.CatalogDump) := none
  files : Option (List World.FileEntry) := none

/-- What a step answers. -/
inductive Answer where
  | nothing
  | database (d : Option DatabaseRecord)
  | table (t : Option TableRecord)
  | partition (p : Option PartitionRecord)
  | flag (b : Bool)
  | names (ss : List String)
  | count (n : Int)
  | task (t : TaskReport)
  | run (r : RunReport)
  | dump (d : Dump)

/-- The answer of a catalog as the answer of a step. -/
def Answer.ofCatalog : (r : Catalog.Request) → r.Answer → Answer
  | .getDatabase _, a => .database a
  | .createDatabaseIfAbsent _, a => .flag a
  | .getTable _, a => .table a
  | .createTable _, _ => .nothing
  | .alterTable _, _ => .nothing
  | .getPartition _, a => .partition a
  | .addPartition _, _ => .nothing
  | .alterPartition _ _, _ => .nothing
  | .listPartitionNames _, a => .names a

/-- The answer about directory trees as the answer of a step. -/
def Answer.ofTransfer : (r : Transfer.Request) → r.Answer → Answer
  | .exists _, a => .flag a
  | .equal _ _, a => .flag a
  | .copy _ _ _, a => .count a
  | .move _ _, _ => .nothing

/-- The state of a scenario. -/
structure Scenario where
  world : World
  source : Option Side := none
  destination : Option Side := none
  transfer : Transfer.Options := {}
  builder : Builder := {}
  policy : ConflictPolicy := .logging
  allowCopy : Value := .bool true
  stagingRoot : Value := .null

namespace Scenario

/-- Opens a catalog. -/
def openCatalog (source : CatalogSource) (w : World) : Except Failure Nat × World :=
  match source with
  | .keyed =>
    let (id, w) := w.addCatalog { store := .keyed {} }
    (.ok id, w)
  | .relational url schema =>
    match Catalog.Opening.ofValues url schema with
    | .ok (opening, _) => w.openRelational opening
    | .error e => (.error e, w)

/-- Opens the catalog of a cluster. -/
def openSide (side : Option (Cluster × CatalogSource)) (w : World) :
    Except Failure (Option Side × World) :=
  match side with
  | none => .ok (none, w)
  | some (cluster, catalogSource) =>
    match openCatalog catalogSource w with
    | (.ok catalog, w) => .ok (some { cluster, catalogSource, catalog }, w)
    | (.error e, _) => .error e

/-- One of the sides. -/
def side (on : Which) (s : Scenario) : Except Failure Side :=
  match on, s.source, s.destination with
  | .source, some side, _ => .ok side
  | .destination, _, some side => .ok side
  | _, _, _ => .error .keyMissing

/-- Replaces one of the sides. -/
def withSide (on : Which) (side : Side) (s : Scenario) : Scenario :=
  match on with
  | .source => { s with source := some side }
  | .destination => { s with destination := some side }

/-- What tasks between the two sides have in common. -/
def setup (source destination : Side) (s : Scenario) : Task.Setup :=
  { source := source.cluster
    destination := destination.cluster
    builder := some s.builder
    policy := some s.policy
    allowCopy := s.allowCopy.truthy
    stagingRoot := s.stagingRoot }

/-- The changes of lock states in a log. -/
def lockChanges (log : List Lock.Heard) : List LockChange :=
  log.filterMap fun e =>
    match e with
    | .transition _ lock old new => some { lock, old, new }
    | .service _ => none

/-- The registry while someone else holds locks, which are taken one after the other. -/
def registryWith (blocked : List Lock.Requirement) : Except Failure Lock.Registry :=
  let desk : Lock.Desk := { registry := {}, manager := { flavour := .process false } }
  match (Lock.Desk.takeEach [] blocked).run.run desk with
  | (.ok (_, none), desk) => .ok desk.registry
  | (.ok (_, some e), _) | (.error e, _) => .error e

/-- A manager that someone listens to, beside another that holds some locks. -/
def deskFor (locking : Locking) : Except Failure Lock.Desk := do
  let registry ← registryWith locking.blocked
  return { registry, manager := { flavour := locking.flavour, listeners := ["run"] } }

/-- Does something while holding locks. -/
def holding {α σ : Type} (locks : Lock.LockSet) (desk : Lock.Desk)
    (body : σ → Except Failure α × σ) (s : σ) : Except Failure α × σ × Lock.Desk :=
  match (Lock.Desk.enter locks).run.run desk with
  | (.error e, desk) => (.error e, s, desk)
  | (.ok taken, desk) =>
    let (result, s) := body s
    match (Lock.Desk.leave taken).run.run desk with
    | (.ok (), desk) => (result, s, desk)
    | (.error e, desk) => (.error e, s, desk)

/-- The task that was chosen, with the sides that it is for. -/
def taskBetween (c : TaskChoice) (s : Scenario) :
    Except Failure (ReplicationTask × Side × Side) := do
  let task ← c.task
  return (task, ← s.side .source, ← s.side .destination)

/-- The report of a run, and the scenario after it. -/
def reportRun (outcome : Except Failure Outcome) (run : World.Run Empty)
    (lockChanges : Option (List LockChange)) (s : Scenario) : RunReport × Scenario :=
  ({ outcome, events := run.hook.events, warnings := run.warnings, lockChanges },
    { s with world := run.world })

/-- Runs a task. -/
def runTask (c : TaskChoice) (locking : Option Locking) (s : Scenario) : RunReport × Scenario :=
  match s.taskBetween c with
  | .error e => ({ outcome := .error e }, s)
  | .ok (task, source, destination) =>
    let parties : World.Parties :=
      { source := source.catalog, destination := destination.catalog, transfer := some s.transfer }
    let body := World.runTask parties (task.program (s.setup source destination))
    let start : World.Run Empty := { world := s.world, hook := .recording [] }
    match locking with
    | none =>
      let (outcome, run) := body start
      s.reportRun outcome run none
    | some locking =>
      match deskFor locking with
      | .error e => ({ outcome := .error e, lockChanges := some [] }, s)
      | .ok desk =>
        let (outcome, run, desk) := holding task.requiredLocks desk body start
        s.reportRun outcome run (some (lockChanges desk.log))

/-- What a task would look like. -/
def showTask (c : TaskChoice) (s : Scenario) : Except Failure TaskReport := do
  let (task, source, destination) ← s.taskBetween c
  return {
    task
    text := task.text source.cluster destination.cluster
    allowCopy := s.allowCopy
    stagingRoot := s.stagingRoot }

/-- Changes the builder, which may not be to be had. -/
def applyPreserved (preserved : Option Value) (s : Scenario) : Except Failure Scenario :=
  match preserved with
  | none => .ok s
  | some v => (Builder.ofValue v).map fun builder => { s with builder }

/-- Changes how data is carried, which may not be possible; a new carrier has no faults. -/
def applyTransfer (args : Option Value) (s : Scenario) : Except Failure Scenario :=
  match args with
  | none => .ok s
  | some v => (Transfer.Options.ofValue v).map fun transfer =>
    { s with transfer, world := { s.world with transferFaults := [] } }

/-- Changes settings one after the other, up to the first that can't be changed. -/
def applySettings (c : Settings) (s : Scenario) : Except Failure Unit × Scenario :=
  let s := { s with
    allowCopy := c.allowCopy.getD s.allowCopy
    stagingRoot := c.stagingRoot.getD s.stagingRoot
    policy := c.policy.getD s.policy }
  match s.applyPreserved c.preserved with
  | .error e => (.error e, s)
  | .ok s =>
    match s.applyTransfer c.transfer with
    | .error e => (.error e, s)
    | .ok s => (.ok (), s)

/-- What is stored on a side, if it is asked for and there is one. -/
def dumpSide (wanted : Bool) (side : Option Side) (w : World) :
    Option (Except Failure World.CatalogDump) × World :=
  match wanted, side with
  | true, some side =>
    let (d, w) := w.dumpCatalog side.catalog
    (some d, w)
  | _, _ => (none, w)

/-- What is stored everywhere. -/
def dump (source destination files : Bool) (s : Scenario) : Dump × Scenario :=
  let (sourceDump, world) := dumpSide source s.source s.world
  let (destinationDump, world) := dumpSide destination s.destination world
  ({ source := sourceDump
     destination := destinationDump
     files := if files then some world.dumpFiles else none },
   { s with world })

/-- Changes the world of a scenario. -/
def withWorld {α : Type} (f : α → Answer) (r : Except Failure α × World) (s : Scenario) :
    Except Failure Answer × Scenario :=
  match r with
  | (.ok a, world) => (.ok (f a), { s with world })
  | (.error e, world) => (.error e, { s with world })

/-- Does something with the catalog of a side. -/
def withCatalog {α : Type} (on : Which) (f : α → Answer)
    (act : Nat → World → Except Failure α × World) (s : Scenario) :
    Except Failure Answer × Scenario :=
  match s.side on with
  | .error e => (.error e, s)
  | .ok side => s.withWorld f (act side.catalog s.world)

/-- Opens a new catalog in the place of that of a side. -/
def reopen (on : Which) (s : Scenario) : Except Failure Answer × Scenario :=
  match s.side on with
  | .error e => (.error e, s)
  | .ok side =>
    match openCatalog side.catalogSource s.world with
    | (.error e, world) => (.error e, { s with world })
    | (.ok catalog, world) => (.ok .nothing, ({ s with world }).withSide on { side with catalog })

/-- Does a step. -/
def step (st : Step) (s : Scenario) : Except Failure Answer × Scenario :=
  match st with
  | .clock now => (.ok .nothing, { s with world := { s.world with now } })
  | .set c =>
    let (result, s) := s.applySettings c
    (result.map fun _ => .nothing, s)
  | .catalog on r =>
    match r with
    | .error e => (.error e, s)
    | .ok r => s.withCatalog on (Answer.ofCatalog r) fun id => World.serveCatalog id r
  | .vanish on spec =>
    match spec with
    | .error e => (.error e, s)
    | .ok spec => s.withCatalog on (fun _ => .nothing) fun id => World.vanish id spec
  | .breakDown on => s.withCatalog on (fun _ => .nothing) World.breakCatalog
  | .dispose on => s.withCatalog on (fun _ => .nothing) World.disposeCatalog
  | .reopen on => s.reopen on
  | .catalogFault on f => s.withCatalog on (fun _ => .nothing) fun id => World.setCatalogFault id f
  | .transferFault f => s.withWorld (fun _ => .nothing) (s.world.setTransferFault f)
  | .fileFault f =>
    let faults := s.world.fileFaults ++ [f]
    (.ok .nothing, { s with world := { s.world with fileFaults := faults } })
  | .write location content => s.withWorld (fun _ => .nothing) (s.world.writeFile location content)
  | .makeFolder location => s.withWorld (fun _ => .nothing) (s.world.makeFolder location)
  | .remove location => s.withWorld (fun _ => .nothing) (s.world.removeAt location)
  | .transfer r => s.withWorld (Answer.ofTransfer r) (s.world.serveTransfer s.transfer r)
  | .task c =>
    match s.showTask c with
    | .ok t => (.ok (.task t), s)
    | .error e => (.error e, s)
  | .run c locking =>
    let (report, s) := s.runTask c locking
    (.ok (.run report), s)
  | .dump source destination files =>
    let (d, s) := s.dump source destination files
    (.ok (.dump d), s)

/-- Does steps one after the other. -/
def steps : List Step → Scenario → List (Except Failure Answer) × Scenario
  | [], s => ([], s)
  | st :: rest, s =>
    let (answer, s) := s.step st
    let (answers, s) := steps rest s
    (answer :: answers, s)

/-- The world before the first step: files are written and a folder of the host is there. -/
def prepare (root : String) : List (String × String) → World → World
  | [], w => (w.makeFolder root).2
  | (location, content) :: rest, w => prepare root rest (w.writeFile location content).2

end Scenario

end CatalogReplication.Lab
