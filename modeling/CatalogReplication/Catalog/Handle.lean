import CatalogReplication.Catalog.DatabaseUrl
import CatalogReplication.Catalog.Keyed
import CatalogReplication.Catalog.Relational

/-!
# Catalogs in use

A catalog that has been opened, until it is disposed of. Relational catalogs live in memory, each by
itself, or in a file of the host, where all that open the same file share its rows. What a catalog
answers depends on the time and on those files: without its file, the rows of a catalog can still be
looked at but not be changed.
-/

namespace CatalogReplication.Catalog

/-- What a file holds that a database was made in. -/
inductive Database where
  | rows (c : Relational)
  /-- The file was written over, by nothing or by something that is no database. -/
  | overwritten (isEmpty : Bool)
deriving Inhabited

/-- What catalogs see of the host: its files, and the databases in them by their numbers. -/
structure Host where
  tree : Files.Tree := []
  databases : List Database := []

/-- Where the records of a catalog are. -/
inductive Store where
  | keyed (c : Keyed)
  /-- Rows that no other catalog sees. -/
  | own (c : Relational)
  /-- The rows of a database in a file, perhaps only to be looked at. -/
  | inFile (path : Files.Path) (id : Nat) (isLocked : Bool)
  /-- A component that is no catalog. If it can be disposed of, it goes by its class, and that is all
  that it has in common with a catalog. -/
  | foreign (component : Option String)
deriving Inhabited

/-- The class that a store belongs to. -/
def Store.component : Store → String
  | .keyed _ => "pydiverse.replication.backend.catalog.dict.DictCatalog"
  | .own _ | .inFile _ _ _ => "pydiverse.replication.backend.catalog.sql.SQLCatalog"
  | .foreign component => component.getD ""

/-- Whether a store can be disposed of. -/
def Store.isDisposable : Store → Bool
  | .foreign component => component.isSome
  | _ => true

/-- Whether a store has a method of a name: one that answers a request, one that it calls on the way,
or that which disposes of it. -/
def Store.hasMethod (name : String) (s : Store) : Bool :=
  match s with
  | .foreign component => component.isSome && name == "dispose"
  | .keyed _ => Request.names.contains name || ["_stamp", "dispose"].contains name
  | .own _ | .inFile _ _ _ =>
    Request.names.contains name || ["_stamp", "_create_tables", "_pk", "dispose"].contains name

/-- A catalog that has been opened. -/
structure Handle where
  store : Store
  isDisposed : Bool := false
deriving Inhabited

/-- What can be done with the rows of a catalog. -/
inductive Reach where
  | rows (c : Relational) (isLocked : Bool)
  /-- Nothing, because there is no database any more. -/
  | nothing (isEmpty : Bool)

namespace Store

/-- What can be done with the rows of a relational catalog. -/
def reach? (host : Host) : Store → Option Reach
  | .own c => some (.rows c false)
  | .inFile path id isLocked =>
    match host.databases[id]? with
    | some (.rows c) => some (.rows c (isLocked || host.tree.node? path != some (.database id)))
    | some (.overwritten isEmpty) => some (.nothing isEmpty)
    | none => some (.nothing true)
  | _ => none

/-- Puts back the rows of a relational catalog. -/
def withRows (c : Relational) (host : Host) : Store → Store × Host
  | .own _ => (.own c, host)
  | .inFile path id isLocked =>
    (.inFile path id isLocked, { host with databases := host.databases.set id (.rows c) })
  | s => (s, host)

/-- Answers a request. -/
def serve (now : Int) (r : Request) (host : Host) (s : Store) :
    Except Failure r.Answer × Store × Host :=
  match s, s.reach? host with
  | .keyed c, _ =>
    let (answer, c) := Keyed.serve now r c
    (answer, .keyed c, host)
  | s, some (.rows c isLocked) =>
    let (answer, c) := Relational.serve now isLocked r c
    (answer, s.withRows c host)
  | s, some (.nothing isEmpty) =>
    let name := Relational.failingName r
    (.error (.catalog (if isEmpty then .unavailable name else .foreign name)), s, host)
  | s, none => (.error .member, s, host)

/-- Whether a request gets as far as to stamp a record. -/
def stamps (now : Int) (r : Request) (host : Host) (s : Store) : Bool :=
  match s, s.reach? host with
  | .keyed c, _ =>
    r.isStamped && match (Keyed.serve now r c).1 with
      | .ok _ => true
      | .error _ => false
  | _, some (.rows c isLocked) => c.stamps now isLocked r
  | _, _ => false

/-- The store after a request that failed when its record was to be stamped. -/
def unstamped (r : Request) : Store → Store
  | .keyed c => .keyed (c.unstamped r)
  | s => s

/-- The look-up that a store makes on the way to answering a request. -/
def lookupFirst? (r : Request) : Store → Option Request
  | .own _ | .inFile _ _ _ => Relational.lookupFirst? r
  | _ => none

end Store

/-! ### Opening relational catalogs -/

/-- The schemas that every database has. -/
inductive Schema where
  | main
  /-- The same, under a name by which tables aren't found. -/
  | mainUnseen
  /-- Rows that go when the catalog is closed. -/
  | temporary
deriving DecidableEq, Repr

/-- The schema of a name. -/
def Schema.ofName? : Option String → Option Schema
  | none => some .main
  | some name =>
    if name == "main" then some .main
    else if name.isEmpty || name.toLower == "main" then some .mainUnseen
    else if name.toLower == "temp" then some .temporary
    else none

/-- What a relational catalog is opened with. -/
structure Opening where
  /-- The database; none where nothing can be opened. -/
  target : Option DatabaseUrl.Target
  schema : Option String
deriving DecidableEq, Repr

/-- Reads what a relational catalog is opened with; answers also the URL. -/
def Opening.ofValues (url schema : Value) : Except Failure (Opening × DatabaseUrl) :=
  match url with
  | .text url => do
    let u ← DatabaseUrl.ofText url
    u.checkEngine
    let target ← u.target?
    match schema with
    | .null => return ({ target, schema := none }, u)
    | .text name => return ({ target, schema := some name }, u)
    | _ => throw .databaseUrl
  | _ => .error .databaseUrl

/-- The failure to make the tables of a catalog. -/
def tablesFailed : Failure := .catalog (.unavailable "_create_tables")

/-- Makes the tables of a catalog in rows that may have some. -/
def Schema.makeTables (schema : Schema) (isLocked : Bool) (c : Relational) :
    Except Failure Relational :=
  if c.isBroken then if isLocked then .error tablesFailed else .ok {}
  else if schema = .mainUnseen then .error tablesFailed
  else .ok c

/-- The number of the database in the file at a path, which is made if there is none and that is
allowed. -/
def databaseAt (path : Files.Path) (access : DatabaseUrl.FileAccess) (host : Host) :
    Except Failure (Nat × Host) :=
  let fresh : Nat × Host :=
    (host.databases.length, {
      tree := Assoc.put path (.database host.databases.length) host.tree
      databases := host.databases ++ [.rows { isBroken := true }] })
  match host.tree.node? path with
  | some .folder => .error tablesFailed
  | some (.database id) => .ok (id, host)
  | some (.file content) =>
    if content.isEmpty then .ok fresh else .error (.catalog (.foreign "_create_tables"))
  | none =>
    if access = .create && host.tree.isFolder path.dropLast then .ok fresh
    else .error tablesFailed

/-- Opens a relational catalog; tables that are missing are made. A file that had to be made for it
stays even if that fails. -/
def openRelational (o : Opening) (host : Host) : Except Failure Handle × Host :=
  match o.target, Schema.ofName? o.schema with
  | none, _ => (.error tablesFailed, host)
  | some .memory, none => (.error tablesFailed, host)
  | some .memory, some _ => (.ok { store := .own {} }, host)
  | some (.file path access), schema =>
    match databaseAt path access host with
    | .error e => (.error e, host)
    | .ok (id, host) =>
      let isLocked := access = .look
      match schema, host.databases[id]? with
      | some .temporary, _ => (.ok { store := .own {} }, host)
      | some schema, some (.rows c) =>
        match schema.makeTables isLocked c with
        | .error e => (.error e, host)
        | .ok c =>
          (.ok { store := .inFile path id isLocked },
            { host with databases := host.databases.set id (.rows c) })
      | _, _ => (.error tablesFailed, host)

end CatalogReplication.Catalog
