import CatalogReplication.Task.Calls

/-!
# Reconciling data

Makes the tree at the destination equal to the tree at the source. If a copy of the source was
staged in advance and still matches, it is moved into place; otherwise the tree is copied, if that
is allowed and needed at all.
-/

namespace CatalogReplication.Task

open TaskProgram

/-- What became of the data. With an outcome the task must end and leave the metadata alone. -/
structure DataResult where
  bytes : Int := 0
  outcome : Option Outcome := none
deriving DecidableEq, Repr

/-- What may be done to data. -/
structure DataOptions where
  /-- The name under which copies are tagged. -/
  sourceName : Value
  allowCopy : Bool
  /-- The location below which trees may have been staged, if there is one. -/
  stagingRoot : Value
deriving Repr

/-- Where a copy of a location may have been staged below a root. -/
def stagedPath (root location : Value) : Except Failure String :=
  match root, location with
  | .text root, .text location => (Location.staged root location).mapError fun _ => .authority
  | _, .text location =>
    match Location.staged "" location with
    | .ok _ => .error .member
    | .error _ => .error .authority
  | _, location => .error (if location.truthy then .member else .arguments)

/-- Copies the source, unless the destination matches already. -/
def copyData (o : DataOptions) (spec : Spec) (source destination : String) :
    TaskProgram DataResult := do
  if ← transfer (.equal source destination) then
    emit spec .dataUpToDate [("src", .text source), ("dest", .text destination)]
    return {}
  else if !o.allowCopy then
    emit spec .dataCopyDisallowed [("src", .text source), ("dest", .text destination)]
    return { outcome := some .notCompletable }
  else if !(← transfer (.exists source)) then
    emit spec .sourcePathMissing [("src", .text source)]
    return { outcome := some .notCompletable }
  else
    let tags := [o.sourceName, .text spec.database, .text spec.table]
    match ← tryTransfer (.copy source destination tags) with
    | .error e =>
      emit spec .dataCopyFailed [("src", .text source), ("error", .text e.message)]
      return { outcome := some .failed }
    | .ok bytes =>
      emit spec .dataCopied
        [("src", .text source), ("dest", .text destination), ("bytes_copied", .int bytes)]
      return { bytes }

/-- Moves a staged tree into place. -/
def moveStaged (spec : Spec) (staged destination : String) : TaskProgram DataResult := do
  match ← tryTransfer (.move staged destination) with
  | .error e =>
    emit spec .dataCopyFailed [("src", .text staged), ("error", .text e.message)]
    return { outcome := some .failed }
  | .ok _ =>
    emit spec .stagedDataMoved [("src", .text staged), ("dest", .text destination)]
    return {}

/-- Brings two different locations together. -/
def reconcileLocations (o : DataOptions) (spec : Spec) (source destination : String) :
    TaskProgram DataResult := do
  if o.stagingRoot.isNull then copyData o spec source destination
  else
    let staged ← .ofExcept (stagedPath o.stagingRoot (.text source))
    if ← transfer (.equal staged source) then moveStaged spec staged destination
    else
      emit spec .stagedDataMismatch [("staged", .text staged), ("src", .text source)]
      copyData o spec source destination

/-- Makes the data of the destination equal to that of the source. -/
def reconcileData (o : DataOptions) (spec : Spec) (source destination : Option String) :
    TaskProgram DataResult := do
  match source, destination with
  | some source, some destination =>
    if source = destination then
      emit spec .dataLocationShared [("location", .text source)]
      return {}
    else reconcileLocations o spec source destination
  | _, _ => return {}

end CatalogReplication.Task
