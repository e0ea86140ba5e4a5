import CatalogReplication.Component.Loading
import CatalogReplication.Config.Configuration
import CatalogReplication.Config.Nesting

/-!
# Contexts

A context holds the settings of an instance and the components made from them. A component is made
when it is first asked for and then kept. Its catalogs are disposed of when the last block of the
context is left; if they are asked for after that, new ones are opened.
-/

namespace CatalogReplication.Config

/-- Where catalogs come from and where they go. -/
structure Supply (σ : Type) where
  openKeyed : σ → Except Failure Nat × σ
  openRelational : Catalog.Opening → σ → Except Failure Nat × σ
  /-- Takes in whatever is to be the catalog of a cluster; answers the number that it goes by. -/
  takeIn : Component → σ → Nat × σ
  dispose : Nat → σ → Except Failure Unit × σ

/-- Answers what loading asks for; `instanceId` is that of the current context. -/
def Supply.serve {σ : Type} (supply : Supply σ) (instanceId : Option String) :
    (c : Component.Call) → σ → Except Failure c.Answer × σ
  | .openKeyed, s => supply.openKeyed s
  | .openRelational o, s => supply.openRelational o s
  | .instanceId, s =>
    match instanceId with
    | some id => (.ok id, s)
    | none => (.error .outsideContext, s)

/-- The two clusters of a context. -/
inductive ClusterRole where
  | source
  | destination
deriving DecidableEq, Repr

/-- The section of a cluster. -/
def ClusterRole.sectionName : ClusterRole → String
  | source => "source"
  | destination => "destination"

/-- An entry of the section of a cluster. -/
def Settings.clusterEntry (s : Settings) (role : ClusterRole) (key : String) : Value :=
  ((s.sectionAt role.sectionName).field? key).getD .null

/-- A cluster of a context. -/
structure ClusterPart where
  name : Value
  root : Value
  catalog : Component
  /-- The number that the catalog goes by. -/
  handle : Nat

/-- The components of a context beside its clusters and its lock managers. -/
inductive Role where
  | carrier
  | builder
  | policy
  | hook
deriving DecidableEq, Repr

/-- The section of a component. -/
def Role.sectionName : Role → String
  | carrier => "directory_reconciler"
  | builder => "destination_builder"
  | policy => "conflict_policy"
  | hook => "trace_hook"

/-- The section of the lock managers. -/
def lockSection : String := "lock_manager"

/-- The settings of a context and the components that it keeps. -/
structure Context where
  settings : Settings
  clusters : Assoc ClusterRole ClusterPart := []
  components : Assoc Role Component := []

/-- All contexts, their blocks, and the world outside of them. -/
structure Contexts (σ : Type) where
  outside : σ
  contexts : List Context := []
  nesting : Nesting := {}

/-- A step with contexts. -/
abbrev InContexts (σ : Type) := ExceptT Failure (StateM (Contexts σ))

namespace InContexts

variable {σ : Type}

/-- A context. -/
def context (c : ContextId) : InContexts σ Context := do
  match (← get).contexts[c]? with
  | some x => return x
  | none => throw .outsideContext

/-- Changes a context. -/
def update (c : ContextId) (f : Context → Context) : InContexts σ Unit :=
  modify fun s => { s with contexts := s.contexts.modify c f }

/-- Does something in the world outside. -/
def outside {α : Type} (f : σ → Except Failure α × σ) : InContexts σ α := do
  let s ← get
  let (answer, outside) := f s.outside
  set { s with outside }
  match answer with
  | .ok a => return a
  | .error e => throw e

/-- Adds a context; answers its number. -/
def add (settings : Settings) : InContexts σ ContextId := do
  let s ← get
  set { s with contexts := s.contexts ++ [({ settings } : Context)] }
  return s.contexts.length

/-- The context of a thread. -/
def current (t : Thread) : InContexts σ ContextId := do
  match (← get).nesting.current? t with
  | some c => return c
  | none => throw .outsideContext

/-- Loads the component of a section in a thread. -/
def loadValue (supply : Supply σ) (t : Thread) (v : Value) : InContexts σ Component := do
  let s ← get
  let id := do
    let c ← s.nesting.current? t
    let x ← s.contexts[c]?
    return x.settings.instanceId
  outside fun w => (Component.load v).run (supply.serve id) (fun n _ => nomatch n) w

/-- Has a failure to load something reported; configuration errors are reported as they are. -/
def reportAs {α : Type} (e : Error) (step : InContexts σ α) : InContexts σ α :=
  tryCatch step fun
    | .config inner => throw (.config inner)
    | .configBy inner cause => throw (.configBy inner cause)
    | failure => throw (.configBy e failure)

/-- Takes in whatever is to be a catalog or a lock manager; answers the number that it goes by. -/
def takeIn (supply : Supply σ) (c : Component) : InContexts σ Nat :=
  outside fun w =>
    let (handle, w) := supply.takeIn c w
    (.ok handle, w)

/-- Loads the catalog of a cluster of a context. -/
def loadCatalog (supply : Supply σ) (t : Thread) (c : ContextId) (role : ClusterRole) :
    InContexts σ Component := do
  let x ← context c
  reportAs (.catalogFailed role.sectionName)
    (loadValue supply t (x.settings.clusterEntry role "catalog"))

/-- A cluster of a context. -/
def cluster (supply : Supply σ) (t : Thread) (c : ContextId) (role : ClusterRole) :
    InContexts σ ClusterPart := do
  let x ← context c
  match x.clusters.lookup role with
  | some part => return part
  | none =>
    let catalog ← loadCatalog supply t c role
    let handle ← takeIn supply catalog
    let part : ClusterPart := {
      name := x.settings.clusterEntry role "name"
      root := x.settings.clusterEntry role "fs_root"
      catalog
      handle }
    update c fun x => { x with clusters := Assoc.put role part x.clusters }
    return part

/-- Loads the component of a section of a context. -/
def loadSection (supply : Supply σ) (t : Thread) (c : ContextId) (name : String) :
    InContexts σ Component := do
  let x ← context c
  reportAs (.loadingFailed name) (loadValue supply t (x.settings.sectionAt name))

/-- A component of a context. -/
def component (supply : Supply σ) (t : Thread) (c : ContextId) (role : Role) :
    InContexts σ Component := do
  let x ← context c
  match x.components.lookup role with
  | some component => return component
  | none =>
    let component ← loadSection supply t c role.sectionName
    update c fun x => { x with components := Assoc.put role component x.components }
    return component

/-- Disposes of whatever is the lock manager. -/
def disposeOfManager (supply : Supply σ) (manager : Component) : InContexts σ Unit := do
  let handle ← takeIn supply manager
  outside (supply.dispose handle)

/-- Gives a cluster up, if it is kept. -/
def giveUp (supply : Supply σ) (c : ContextId) (role : ClusterRole) : InContexts σ Unit := do
  let x ← context c
  match x.clusters.lookup role with
  | none => pure ()
  | some part =>
    update c fun x => { x with clusters := Assoc.erase role x.clusters }
    outside (supply.dispose part.handle)

/-- Closes a context: its clusters are given up. -/
def close (supply : Supply σ) (c : ContextId) : InContexts σ Unit := do
  giveUp supply c .source
  giveUp supply c .destination

/-- Enters a block of a context. -/
def enter (t : Thread) (c : ContextId) : InContexts σ Unit :=
  modify fun s => { s with nesting := s.nesting.enter c t }

/-- Leaves a block of a context; with the last one it is closed. -/
def leave (supply : Supply σ) (t : Thread) (c : ContextId) : InContexts σ Unit := do
  let s ← get
  match s.nesting.leave? c t with
  | none => throw .keyMissing
  | some (isLast, nesting) =>
    set { s with nesting }
    if isLast then close supply c

/-- Does something inside a block, which is left in any case. -/
def inside {α : Type} (supply : Supply σ) (t : Thread) (c : ContextId) (body : InContexts σ α) :
    InContexts σ α := do
  enter t c
  let result ← ExceptT.lift body.run
  leave supply t c
  match result with
  | .ok a => return a
  | .error e => throw e

/-- Makes a lock manager, inside a block that tells it the name of the instance. -/
def lockManager (supply : Supply σ) (t : Thread) (c : ContextId) : InContexts σ Component :=
  inside supply t c (loadSection supply t c lockSection)

/-- Makes every component of a context once. -/
def tryOut (supply : Supply σ) (t : Thread) (c : ContextId) : InContexts σ Unit :=
  inside supply t c do
    let _ ← cluster supply t c .source
    let _ ← cluster supply t c .destination
    let _ ← component supply t c .carrier
    let _ ← component supply t c .builder
    let _ ← component supply t c .policy
    let _ ← component supply t c .hook
    let manager ← lockManager supply t c
    disposeOfManager supply manager

/-- The context of an instance of a configuration. If its components are to be tried out, any
failure of that is reported. -/
def ofInstance (supply : Supply σ) (t : Thread) (configuration : Configuration)
    (environment : Environment) (isTriedOut : Bool) (name : Value) :
    InContexts σ ContextId := do
  let settings ←
    match configuration.settings environment name with
    | .ok settings => pure settings
    | .error e => throw e
  let c ← add settings
  if isTriedOut then
    tryCatch (tryOut supply t c) fun failure =>
      throw (.configBy (.componentsFailed name.text? configuration.path) failure)
  return c

end InContexts

end CatalogReplication.Config
