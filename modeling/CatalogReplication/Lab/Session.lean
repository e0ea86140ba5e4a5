import CatalogReplication.Config.Context
import CatalogReplication.Config.Document
import CatalogReplication.Config.Search
import CatalogReplication.Lab.Scenario

/-!
# Sessions

A script of steps with a configuration and the contexts made from it: components are looked at,
blocks are entered and left, and tasks are run with the components of a context. Catalogs can be
remembered under a name and used later.
-/

namespace CatalogReplication.Lab

open Config

/-- The catalogs of a world as a supply. -/
def World.supply : Supply World where
  openKeyed w :=
    let (id, w) := w.addCatalog { store := .keyed {} }
    (.ok id, w)
  openRelational := World.openRelational
  takeIn := World.takeIn
  dispose := World.disposeCatalog

/-- The kinds of requests for a task. -/
inductive TaskRequest where
  /-- The task that fits the spec, which is read before anything else. -/
  | fitting
  | partition
  | table (hint : Value)

/-- A step of a session. -/
inductive SessionStep where
  | load (path given : Value)
  | loadDefault
  | setVariables (bindings : List (String × Option String))
  | get (name : String) (instanceName : Value)
  | enter (name : String)
  | leave (name : String)
  | current
  | cluster (name : String) (role : ClusterRole)
  | component (name : String) (role : Role)
  | lockManager (name : String)
  | task (name : String) (request : TaskRequest) (spec : Except Failure Spec)
  | attributeAt (name : String) (path : List Value)
  | setAttribute (name : String)
  | assign (name : String)
  | keep (name : String) (role : ClusterRole) (as : String)
  | same (a b : String)
  | run (name : String) (spec : Except Failure Spec)
  /-- A step of a scenario with the catalogs of a context, or with one that was remembered. -/
  | scenario (name : String) (kept : Option String) (st : Step)

/-- A configuration as it is looked at. -/
structure ConfigurationView where
  name : Value
  path : Option String
  instances : List Value

/-- A task as it is looked at. -/
structure ConfiguredTask where
  task : ReplicationTask
  text : String
  allowCopy : Bool
  stagingRoot : Value

/-- What running a task in a session showed. -/
structure SessionRun where
  outcome : Except Failure Outcome
  warnings : List Overwrite
  /-- All events that the hook of the context keeps. -/
  recorded : List Event

/-- What a step of a session answers. -/
inductive SessionAnswer where
  | nothing
  | configuration (c : ConfigurationView)
  /-- The default configuration, and whether it is the same when it is asked for again. -/
  | default (c : ConfigurationView) (isSame : Bool)
  | settings (s : Config.Settings)
  | names (ns : List String)
  /-- A cluster, and whether it is kept. -/
  | cluster (part : ClusterPart) (isKept : Bool)
  /-- A component, and whether it is kept. -/
  | component (c : Component) (isKept : Bool)
  | lockManager (c : Component)
  | task (t : ConfiguredTask)
  | value (v : Value)
  | flag (b : Bool)
  | run (r : SessionRun)
  | scenario (a : Answer)

/-- The state of a session. -/
structure Session where
  contexts : Contexts World
  environment : Environment
  configuration : Option Configuration := none
  defaultConfiguration : Option Configuration := none
  named : Assoc String ContextId := []
  /-- The numbers of the catalogs that were remembered. -/
  kept : Assoc String Nat := []

/-- A step at a session. -/
abbrev InSession := ExceptT Failure (StateM Session)

namespace Session

/-- The thread in which sessions take place. -/
def thread : Thread := 0

/-- The variable that keeps components from being tried out. -/
def testVariable : String := "PYDIVERSE_REPLICATION_PYTEST"

/-- Something that an earlier step should have made is missing. -/
def missing : Failure := .other "NoContext"

/-- The value of something that should be there. -/
def require {α : Type} : Option α → InSession α
  | some a => pure a
  | none => throw missing

/-- The result of a computation. -/
def ofExcept {α : Type} : Except Failure α → InSession α
  | .ok a => pure a
  | .error e => throw e

/-- Does something with the contexts. -/
def inContexts {α : Type} (step : InContexts World α) : InSession α := do
  let s ← get
  let (answer, contexts) := step.run.run s.contexts
  set { s with contexts }
  ofExcept answer

/-- The number of the context under a name. -/
def contextId (name : String) : InSession ContextId := do
  require ((← get).named.lookup name)

/-- Reads a configuration from a file. -/
def readConfiguration (path : String) : InSession Configuration := do
  let host := (← get).contexts.outside.disks.host
  let document ← ofExcept (readDocument (← ofExcept (Files.readFile host path)))
  ofExcept (Configuration.ofValue (some path) document)

/-- A configuration as it is looked at, with the names of its instances in increasing order. -/
def view (c : Configuration) : InSession ConfigurationView := do
  match Value.sorted? (← ofExcept c.instanceNames) with
  | some instances => return { name := c.name, path := c.path, instances }
  | none => throw .arguments

/-- The default configuration, which is searched for once. -/
def theDefault : InSession Configuration := do
  let s ← get
  match s.defaultConfiguration with
  | some c => return c
  | none =>
    let around : Surroundings :=
      { environment := s.environment, host := s.contexts.outside.disks.host }
    let path ← ofExcept (Config.find around (.text defaultName) .null)
    let c ← readConfiguration path
    modify fun s => { s with defaultConfiguration := some c }
    return c

/-- A cluster of a context. -/
def clusterOf (c : ContextId) (role : ClusterRole) : InSession ClusterPart :=
  inContexts (InContexts.cluster World.supply thread c role)

/-- A component of a context. -/
def componentOf (c : ContextId) (role : Role) : InSession Component :=
  inContexts (InContexts.component World.supply thread c role)

/-- A task with what it works with. -/
structure Equipped where
  task : ReplicationTask
  source : ClusterPart
  destination : ClusterPart
  carrier : Component
  builder : Component
  policy : Component
  hook : Component

/-- The task for a spec of a kind. -/
def taskOf (isPartition : Bool) (hint : Value) (spec : Spec) :
    Except Failure ReplicationTask :=
  if isPartition then ReplicationTask.forPartition spec else ReplicationTask.forTable spec hint

/-- Equips a task; its spec is only read when the clusters are there. -/
def equip (c : ContextId) (isPartition : Bool) (hint : Value) (spec : Except Failure Spec) :
    InSession Equipped := do
  let source ← clusterOf c .source
  let destination ← clusterOf c .destination
  let spec ← ofExcept spec
  let carrier ← componentOf c .carrier
  let builder ← componentOf c .builder
  let policy ← componentOf c .policy
  let hook ← componentOf c .hook
  let task ← ofExcept (taskOf isPartition hint spec)
  return { task, source, destination, carrier, builder, policy, hook }

/-- Equips the task that was asked for. -/
def equipFor (c : ContextId) (request : TaskRequest) (spec : Except Failure Spec) :
    InSession Equipped :=
  match request with
  | .fitting => do
    let spec ← ofExcept spec
    equip c spec.isPartition .null (.ok spec)
  | .partition => equip c true .null spec
  | .table hint => equip c false hint spec

/-- The settings of a context. -/
def settingsOf (c : ContextId) : InSession Config.Settings := do
  return (← inContexts (InContexts.context c)).settings

/-- The cluster that a part of a context describes. -/
def clusterFrom (part : ClusterPart) : Cluster := { name := part.name, root := part.root }

/-- A task as it is looked at. -/
def viewTask (c : ContextId) (e : Equipped) : InSession ConfiguredTask := do
  let settings ← settingsOf c
  return {
    task := e.task
    text := e.task.text (clusterFrom e.source) (clusterFrom e.destination)
    allowCopy := settings.allowCopy
    stagingRoot := settings.stagingRoot }

/-- What an equipped task works with. -/
def partiesOf (e : Equipped) : World.Parties :=
  { source := e.source.handle
    destination := e.destination.handle
    transfer := e.carrier.part?.bind Part.carrier? }

/-- What an equipped task is told. -/
def setupOf (settings : Config.Settings) (e : Equipped) : Task.Setup :=
  { source := clusterFrom e.source
    destination := clusterFrom e.destination
    builder := e.builder.part?.bind Part.builder?
    policy := e.policy.part?.bind Part.policy?
    allowCopy := settings.allowCopy
    stagingRoot := settings.stagingRoot }

/-- A desk of a lock manager, if it is one. -/
def deskOf (manager : Component) : Except Failure Lock.Desk :=
  match manager.part?.bind Part.flavour? with
  | some flavour => .ok { registry := {}, manager := { flavour } }
  | none => .error .member

/-- Runs the task for a spec while holding its locks; answers the warnings too. -/
def runTask (c : ContextId) (spec : Except Failure Spec) :
    InSession (Except Failure Outcome × List Overwrite) := do
  let e ← equipFor c .fitting spec
  let manager ← inContexts (InContexts.lockManager World.supply thread c)
  let settings ← settingsOf c
  let desk ← ofExcept (deskOf manager)
  let s ← get
  let body := World.runTask (partiesOf e) (e.task.program (setupOf settings e))
  let start : World.Run Part := { world := s.contexts.outside, hook := e.hook.asHook }
  let (outcome, run, _) := Scenario.holding e.task.requiredLocks desk body start
  set { s with contexts := { s.contexts with outside := run.world } }
  let hook := Component.ofHook run.hook
  inContexts (InContexts.update c fun x =>
    { x with components := Assoc.put .hook hook x.components })
  return (outcome, run.warnings)

/-- The events that the hook of a context keeps. -/
def recorded (c : ContextId) : InSession (List Event) := do
  let x ← inContexts (InContexts.context c)
  match x.components.lookup Role.hook with
  | some (.hook h) => return h.events
  | _ => return []

/-- The number of the catalog of a cluster of a context. -/
def catalogOf (name : String) (role : ClusterRole) : InSession Nat := do
  return (← clusterOf (← contextId name) role).handle

/-- The side of a scenario that is a cluster of a context. -/
def Which.role : Which → ClusterRole
  | .source => .source
  | .destination => .destination

/-- A catalog as one side of a scenario. -/
def sideOf (catalog : Nat) : Side :=
  { cluster := { name := .null, root := .null }, catalogSource := .keyed, catalog }

/-- The side of the catalog that a step is about. -/
def sideFor (name : String) (kept : Option String) (on : Which) : InSession Side := do
  match kept with
  | some k => return sideOf (← require ((← get).kept.lookup k))
  | none => return sideOf (← catalogOf name (Which.role on))

/-- Does a step of a scenario between some sides. -/
def between (source destination : Option Side) (st : Step) : InSession Answer := do
  let s ← get
  let scenario : Scenario := { world := s.contexts.outside, source, destination }
  let (answer, after) := scenario.step st
  set { s with contexts := { s.contexts with outside := after.world } }
  ofExcept answer

/-- The side that a step of a scenario is about, if it is about one. -/
def stepSide? : Step → Option Which
  | .catalog on _ | .vanish on _ | .breakDown on | .dispose on | .reopen on
  | .catalogFault on _ => some on
  | _ => none

/-- Does a step of a scenario. -/
def scenarioStep (name : String) (kept : Option String) (st : Step) : InSession Answer := do
  match st with
  | .dump source destination _ =>
    let sourceSide ← if source then some <$> sideFor name none .source else pure none
    let destinationSide ←
      if destination then some <$> sideFor name none .destination else pure none
    between sourceSide destinationSide st
  | _ =>
    match stepSide? st with
    | none => between none none st
    | some on =>
      let side ← sideFor name kept on
      between (some side) (some side) st

/-- Does a step. -/
def step : SessionStep → InSession SessionAnswer
  | .load path given => do
    let c ←
      match path, given with
      | .null, .null => throw .ambiguousConfig
      | .null, v => ofExcept (Configuration.ofValue none v)
      | .text path, .null => readConfiguration path
      | _, .null => throw .arguments
      | _, _ => throw .ambiguousConfig
    modify fun s => { s with configuration := some c }
    return .configuration (← view c)
  | .loadDefault => do
    let c ← theDefault
    modify fun s => { s with configuration := some c }
    let isSame := (← get).defaultConfiguration.isSome
    return .default (← view c) isSame
  | .setVariables bindings => do
    modify fun s => { s with
      environment := bindings.foldl (fun env v =>
        match v.2 with
        | some value => Assoc.put v.1 value env
        | none => Assoc.erase v.1 env) s.environment }
    return .nothing
  | .get name instanceName => do
    let s ← get
    let configuration ← require s.configuration
    let isTriedOut := !Assoc.hasKey testVariable s.environment
    let c ← inContexts (InContexts.ofInstance World.supply thread configuration s.environment
      isTriedOut instanceName)
    modify fun s => { s with named := Assoc.put name c s.named }
    return .settings (← settingsOf c)
  | .enter name => do
    inContexts (InContexts.enter thread (← contextId name))
    return .nothing
  | .leave name => do
    inContexts (InContexts.leave World.supply thread (← contextId name))
    return .nothing
  | .current => do
    let c ← inContexts (InContexts.current thread)
    let names := ((← get).named.filter fun e => e.2 == c).map Prod.fst
    return .names (names.mergeSort fun a b => !decide (b < a))
  | .cluster name role => do
    let c ← contextId name
    let part ← clusterOf c role
    let x ← inContexts (InContexts.context c)
    return .cluster part (x.clusters.lookup role).isSome
  | .component name role => do
    let c ← contextId name
    let component ← componentOf c role
    let x ← inContexts (InContexts.context c)
    return .component component (x.components.lookup role).isSome
  | .lockManager name => do
    let c ← contextId name
    let manager ← inContexts (InContexts.lockManager World.supply thread c)
    inContexts (InContexts.disposeOfManager World.supply manager)
    return .lockManager manager
  | .task name request spec => do
    let c ← contextId name
    let e ← equipFor c request spec
    return .task (← viewTask c e)
  | .attributeAt name path => do
    let settings ← settingsOf (← contextId name)
    return .value (← ofExcept (settings.attributeAt path))
  | .setAttribute name => do
    let _ ← contextId name
    throw .frozenAttributes
  | .assign name => do
    let _ ← contextId name
    throw .frozenContext
  | .keep name role as => do
    let catalog ← catalogOf name role
    modify fun s => { s with kept := Assoc.put as catalog s.kept }
    return .nothing
  | .same a b => do
    let s ← get
    let first ← require (s.kept.lookup a)
    let second ← require (s.kept.lookup b)
    return .flag (first == second)
  | .run name spec => do
    let c ← contextId name
    let result ← ExceptT.lift (runTask c spec).run
    let events ← recorded c
    match result with
    | .ok (outcome, warnings) => return .run { outcome, warnings, recorded := events }
    | .error e => return .run { outcome := .error e, warnings := [], recorded := events }
  | .scenario name kept st => do
    return .scenario (← scenarioStep name kept st)

/-- Does steps one after the other. -/
def steps : List SessionStep → Session → List (Except Failure SessionAnswer)
  | [], _ => []
  | st :: rest, s =>
    let (answer, s) := (step st).run.run s
    answer :: steps rest s

end Session

end CatalogReplication.Lab
