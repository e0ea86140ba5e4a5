import CatalogReplication.Catalog.Handle
import CatalogReplication.Component.Basic
import CatalogReplication.Task.Replicate
import CatalogReplication.Transfer.Directory

/-!
# A world to run tasks in

Disks, opened catalogs and a clock, with faults that can be set on calls of any of them. The world
answers the calls of tasks and of transfers, so the same programs run on it with and without faults.
-/

namespace CatalogReplication.Lab

/-- A fault that the next calls of a method meet. -/
structure Fault where
  method : String
  failure : Failure
  /-- How many calls it is good for. -/
  times : Nat

/-- A fault that a later file call meets. -/
structure FileFault where
  method : String
  /-- How many calls it lets pass. -/
  pass : Nat
  failure : Failure
  /-- Whether the call takes effect before it fails. -/
  isAfter : Bool

/-- Everything that tasks work on. -/
structure World where
  disks : Files.Disks := {}
  /-- The databases in the files of the host, by their numbers. -/
  databases : List Catalog.Database := []
  catalogs : List Catalog.Handle := []
  /-- The whole seconds that the clock shows. -/
  now : Int := 1700000000
  /-- The faults of the catalogs, by their numbers. -/
  catalogFaults : List (Nat × Fault) := []
  /-- The faults of whoever carries data. -/
  transferFaults : List Fault := []
  fileFaults : List FileFault := []

namespace World

/-- Sets a fault in the place of any that the method had. -/
def setFault (f : Fault) (faults : List Fault) : List Fault :=
  let others := faults.filter fun g => g.method != f.method
  if f.times = 0 then others else others ++ [f]

/-- Lets a fault of a method happen; answers the failure and the faults that are left. -/
def takeFault (method : String) : List Fault → Option Failure × List Fault
  | [] => (none, [])
  | f :: rest =>
    if f.method == method then
      (some f.failure, if f.times ≤ 1 then rest else { f with times := f.times - 1 } :: rest)
    else
      let (e, left) := takeFault method rest
      (e, f :: left)

/-- Lets a fault of a catalog happen. -/
def takeCatalogFault (id : Nat) (method : String) (w : World) : Option Failure × World :=
  let (mine, others) := w.catalogFaults.partition fun f => f.1 == id
  let (e, left) := takeFault method (mine.map Prod.snd)
  (e, { w with catalogFaults := left.map (fun f => (id, f)) ++ others })

/-- Opens a catalog; answers its number. -/
def addCatalog (h : Catalog.Handle) (w : World) : Nat × World :=
  (w.catalogs.length, { w with catalogs := w.catalogs ++ [h] })

/-- What catalogs see of the host. -/
def host (w : World) : Catalog.Host := { tree := w.disks.host, databases := w.databases }

/-- Puts back what catalogs see of the host. -/
def withHost (h : Catalog.Host) (w : World) : World :=
  { w with disks := { w.disks with host := h.tree }, databases := h.databases }

/-- Opens a relational catalog; answers its number. -/
def openRelational (o : Catalog.Opening) (w : World) : Except Failure Nat × World :=
  match Catalog.openRelational o w.host with
  | (.error e, host) => (.error e, w.withHost host)
  | (.ok h, host) =>
    let (id, w) := (w.withHost host).addCatalog h
    (.ok id, w)

/-- Takes in whatever is to be the catalog of a cluster; answers its number. -/
def takeIn (c : Component) (w : World) : Nat × World :=
  let foreign (flavour : Option Lock.Flavour) : Nat × World :=
    w.addCatalog { store := .foreign (flavour.map Lock.Flavour.component) }
  match c with
  | .hook _ => foreign none
  | .part p =>
    match p.catalogId? with
    | some id => (id, w)
    | none => foreign p.flavour?

/-- Does something with a catalog that isn't disposed of. -/
def withLive {α : Type} (id : Nat)
    (act : Catalog.Handle → World → Except Failure α × World) (w : World) :
    Except Failure α × World :=
  match w.catalogs[id]? with
  | none => (.error .keyMissing, w)
  | some h => if h.isDisposed then (.error (.disposed h.store.component), w) else act h w

/-- Has the store of a catalog answer. -/
def serveStore (id : Nat) (r : Catalog.Request) (h : Catalog.Handle) (w : World) :
    Except Failure r.Answer × World :=
  let (answer, store, host) := h.store.serve w.now r w.host
  (answer, { w.withHost host with catalogs := w.catalogs.set id { h with store } })

/-- Has the store of a catalog answer, unless a fault keeps it from stamping the record. -/
def serveStamping (id : Nat) (r : Catalog.Request) (h : Catalog.Handle) (w : World) :
    Except Failure r.Answer × World :=
  if h.store.stamps w.now r w.host then
    match w.takeCatalogFault id "_stamp" with
    | (some e, w) =>
      let store := h.store.unstamped r
      (.error e, { w with catalogs := w.catalogs.set id { h with store } })
    | (none, w) => w.serveStore id r h
  else w.serveStore id r h

/-- Has a catalog answer, unless it meets a fault. -/
def serveCatalog (id : Nat) (r : Catalog.Request) : World → Except Failure r.Answer × World :=
  withLive id fun h w =>
    match w.takeCatalogFault id r.name with
    | (some e, w) => (.error e, w)
    | (none, w) =>
      match h.store.lookupFirst? r with
      | none => w.serveStamping id r h
      | some first =>
        match w.takeCatalogFault id first.name with
        | (some e, w) => (.error e, w)
        | (none, w) => w.serveStamping id r h

/-- Sets a fault of a catalog. -/
def setCatalogFault (id : Nat) (f : Fault) : World → Except Failure Unit × World :=
  withLive id fun h w =>
    if h.store.hasMethod f.method then
      let (mine, others) := w.catalogFaults.partition fun g => g.1 == id
      let faults := (setFault f (mine.map Prod.snd)).map fun g => (id, g)
      (.ok (), { w with catalogFaults := faults ++ others })
    else (.error .member, w)

/-- Sets a fault of whoever carries data. -/
def setTransferFault (f : Fault) (w : World) : Except Failure Unit × World :=
  if (Transfer.Request.names ++ Transfer.Step.names).contains f.method then
    (.ok (), { w with transferFaults := setFault f w.transferFaults })
  else (.error .member, w)

/-- Disposes of a catalog. -/
def disposeCatalog (id : Nat) : World → Except Failure Unit × World :=
  withLive id fun h w =>
    if h.store.isDisposable then
      match w.takeCatalogFault id "dispose" with
      | (some e, w) => (.error e, w)
      | (none, w) =>
        (.ok (), { w with catalogs := w.catalogs.set id { h with isDisposed := true } })
    else (.error .member, w)

/-- Counts a call for the faults of a kind in their order, up to the one that it meets; answers its
failure and the faults that are left. -/
def countCall (method : String) (isAfter : Bool) :
    List FileFault → Option Failure × List FileFault
  | [] => (none, [])
  | f :: rest =>
    let (met, left) := countCall method isAfter rest
    if f.method == method && f.isAfter == isAfter then
      match f.pass with
      | n + 1 => (met, { f with pass := n } :: left)
      | 0 => (some f.failure, rest)
    else (met, f :: left)

/-- Has a disk answer. -/
def serveDisks (c : Files.Call) (w : World) : Except Failure c.Answer × World :=
  let (answer, disks) := w.disks.serve c
  (answer, { w with disks })

/-- Counts a file call for the faults of a kind. -/
def countFileCall (method : String) (isAfter : Bool) (w : World) : Option Failure × World :=
  let (met, fileFaults) := countCall method isAfter w.fileFaults
  (met, { w with fileFaults })

/-- Has a disk answer, unless that meets a fault. The faults that let a call take effect first don't
count those that fail. -/
def serveFile (c : Files.Call) (w : World) : Except Failure c.Answer × World :=
  match c.name? with
  | none => w.serveDisks c
  | some method =>
    match w.countFileCall method false with
    | (some e, w) => (.error e, w)
    | (none, w) =>
      match w.serveDisks c with
      | (.error e, w) => (.error e, w)
      | (.ok a, w) =>
        match w.countFileCall method true with
        | (some e, w) => (.error e, w)
        | (none, w) => (.ok a, w)

/-- Lets whoever carries data begin something, unless that meets a fault. -/
def beginTransfer (name : String) (w : World) : Except Failure Unit × World :=
  match takeFault name w.transferFaults with
  | (some e, left) => (.error e, { w with transferFaults := left })
  | (none, _) => (.ok (), w)

/-- Answers a call of whoever carries data. -/
def serveCarrying : (c : Transfer.Call) → World → Except Failure c.Answer × World
  | .begin s, w => w.beginTransfer s.name
  | .file c, w => w.serveFile c

/-- Has trees carried, unless that meets a fault. -/
def serveTransfer (o : Transfer.Options) (r : Transfer.Request) (w : World) :
    Except Failure r.Answer × World :=
  match w.beginTransfer r.name with
  | (.error e, w) => (.error e, w)
  | (.ok (), w) => (Transfer.program o r).run serveCarrying (fun _ w => w) w

/-- What a task works with. -/
structure Parties where
  source : Nat
  destination : Nat
  /-- How data is carried, if there is someone who can. -/
  transfer : Option Transfer.Options

/-- What a task works on, and what it leaves behind. -/
structure Run (α : Type) where
  world : World
  hook : Hook α
  warnings : List Overwrite := []

/-- Answers a call of a task. -/
def serveTask {α : Type} (p : Parties) : (c : Task.Call) → Run α → Except Failure c.Answer × Run α
  | .source r, s =>
    let (answer, world) := s.world.serveCatalog p.source r
    (answer, { s with world })
  | .destination r, s =>
    let (answer, world) := s.world.serveCatalog p.destination r
    (answer, { s with world })
  | .transfer r, s =>
    match p.transfer with
    | none => (.error .member, s)
    | some o =>
      let (answer, world) := s.world.serveTransfer o r
      (answer, { s with world })
  | .hear e, s =>
    let heard := s.hook.hear e
    (heard.result, { s with hook := heard.hooks })

/-- Runs a procedure of a task. -/
def runTask {α β : Type} (p : Parties) (program : TaskProgram β) (s : Run α) :
    Except Failure β × Run α :=
  program.run (serveTask p) (fun w s => { s with warnings := s.warnings ++ [w] }) s

/-- What is stored in a catalog. -/
structure CatalogDump where
  databases : List (String × Value)
  tables : List (String × Value)
  partitions : List (String × Value)

/-- Asks a catalog for one record after the other; answers their documents under given names. -/
def lookUpEach {κ : Type} (name : κ → String)
    (document : κ → World → Except Failure (Option Value) × World) :
    List κ → World → Except Failure (List (String × Value)) × World
  | [], w => (.ok [], w)
  | k :: rest, w =>
    match document k w with
    | (.error e, w) => (.error e, w)
    | (.ok v, w) =>
      match lookUpEach name document rest w with
      | (.error e, w) => (.error e, w)
      | (.ok vs, w) => (.ok ((name k, v.getD .null) :: vs), w)

/-- The document of a database. -/
def databaseDocument (id : Nat) (name : String) (w : World) :
    Except Failure (Option Value) × World :=
  let (r, w) := w.serveCatalog id (.getDatabase name)
  (r.map fun d => d.map DatabaseRecord.document, w)

/-- The document of a table. -/
def tableDocument (id : Nat) (spec : Spec) (w : World) : Except Failure (Option Value) × World :=
  let (r, w) := w.serveCatalog id (.getTable spec)
  (r.map fun t => t.map TableRecord.document, w)

/-- The document of a partition. -/
def partitionDocument (id : Nat) (spec : Spec) (w : World) :
    Except Failure (Option Value) × World :=
  let (r, w) := w.serveCatalog id (.getPartition spec)
  (r.map fun p => p.map PartitionRecord.document, w)

/-- What the rows of a catalog name, as the catalog answers it. -/
def dumpRows (id : Nat) (c : Catalog.Relational) (w : World) :
    Except Failure CatalogDump × World :=
  match lookUpEach (fun s => s) (databaseDocument id) (c.databases.map Prod.fst) w with
  | (.error e, w) => (.error e, w)
  | (.ok databases, w) =>
    match lookUpEach Spec.text (tableDocument id) (c.tables.map Catalog.Row.spec) w with
    | (.error e, w) => (.error e, w)
    | (.ok tables, w) =>
      match lookUpEach Spec.text (partitionDocument id) (c.partitions.map Catalog.Row.spec) w with
      | (.error e, w) => (.error e, w)
      | (.ok partitions, w) => (.ok { databases, tables, partitions }, w)

/-- The failure of work on a database whose file was written over. -/
def lost (isEmpty : Bool) : Failure := if isEmpty then .unreadable else .other "DatabaseError"

/-- What is stored in a catalog: the records of a keyed one under the names that they have, those of
a relational one under the columns beside them. -/
def dumpCatalog (id : Nat) : World → Except Failure CatalogDump × World :=
  withLive id fun h w =>
    match h.store, h.store.reach? w.host with
    | .keyed c, _ =>
      (.ok {
        databases := c.databases.map fun e => (e.1, e.2.document)
        tables := c.tables.map fun e => (e.2.spec.text, e.2.document)
        partitions := c.partitions.map fun e => (e.2.spec.text, e.2.document) }, w)
    | _, some (.rows c _) => if c.isBroken then (.error .unreadable, w) else w.dumpRows id c
    | _, some (.nothing isEmpty) => (.error (lost isEmpty), w)
    | _, none => (.error .member, w)

/-- Takes an object away from a keyed catalog. -/
def vanish (id : Nat) (spec : Spec) : World → Except Failure Unit × World :=
  withLive id fun h w =>
    match h.store with
    | .keyed c =>
      match c.vanish spec with
      | some c => (.ok (), { w with catalogs := w.catalogs.set id { h with store := .keyed c } })
      | none => (.error .keyMissing, w)
    | _ => (.error .member, w)

/-- Takes the tables away from the database of a catalog. -/
def breakCatalog (id : Nat) : World → Except Failure Unit × World :=
  withLive id fun h w =>
    match h.store.reach? w.host with
    | none => (.error .member, w)
    | some (.nothing isEmpty) => (.error (lost isEmpty), w)
    | some (.rows c isLocked) =>
      if c.isBroken then (.ok (), w)
      else if isLocked then (.error .unreadable, w)
      else
        let (store, host) := h.store.withRows { c with isBroken := true } w.host
        (.ok (), { w.withHost host with catalogs := w.catalogs.set id { h with store } })

/-- Notes that the file at a place is written over, if that holds a database. -/
def overwriteDatabase (p : Files.Place) (content : String) (w : World) : World :=
  match p.disk, w.disks.host.node? p.path with
  | .host, some (.database id) =>
    { w with databases := w.databases.set id (.overwritten content.isEmpty) }
  | _, _ => w

/-- Writes a file, with the folders above it. -/
def writeFile (location content : String) (w : World) : Except Failure Unit × World :=
  match Files.Place.ofLocation? location with
  | none => (.error .scheme, w)
  | some p =>
    let w := w.overwriteDatabase p content
    let (answer, disks) := w.disks.change p.disk fun t =>
      (t.makeFolders p.path.dropLast).bind (Files.Tree.write p.path content)
    (answer, { w with disks })

/-- Makes a folder, with those above it. -/
def makeFolder (location : String) (w : World) : Except Failure Unit × World :=
  match Files.Place.ofLocation? location with
  | none => (.error .scheme, w)
  | some p => w.serveDisks (.makeFolders p)

/-- Removes a file or a folder. -/
def removeAt (location : String) (w : World) : Except Failure Unit × World :=
  match Files.Place.ofLocation? location with
  | none => (.error .scheme, w)
  | some p =>
    match w.serveDisks (.remove p) with
    | (.ok (), w) => (.ok (), w)
    | (.error _, w) => (.error (.other "FileNotFoundError"), w)

/-- A file as it is listed. -/
structure FileEntry where
  location : String
  size : Nat
  head : String

/-- The files of a disk. -/
def filesOf (disk : Files.Disk) (t : Files.Tree) : List FileEntry :=
  t.filterMap fun e =>
    match e.2 with
    | .folder | .database _ => none
    | .file content =>
      let location := Files.Place.location ⟨disk, e.1⟩
      if location.endsWith ".db" then none
      else some {
        location
        size := content.utf8ByteSize
        head := String.ofList (content.toList.take 32) }

/-- All files but those of databases. -/
def dumpFiles (w : World) : List FileEntry :=
  filesOf .memory w.disks.memory ++ filesOf .host w.disks.host

end World

end CatalogReplication.Lab
