import CatalogReplication.Console.Severity
import CatalogReplication.Spec
import CatalogReplication.Value.Basic

/-!
# Events

What a task reports while it runs: one event for each decision that it takes and for each change
that it makes to the destination.
-/

namespace CatalogReplication

/-- The decisions and changes of a task. -/
inductive EventKind where
  | sourceMissing
  | tableCascade
  | tableCascadeFailed
  | destinationExists
  | dataLocationShared
  | stagedDataMoved
  | stagedDataMismatch
  | dataUpToDate
  | dataCopyDisallowed
  | sourcePathMissing
  | dataCopied
  | dataCopyFailed
  | databaseCreated
  | metadataCreated
  | metadataAltered
  | metadataUnchanged
  | taskComplete
deriving DecidableEq, Repr

namespace EventKind

/-- All kinds, in the order in which a task may come to them. -/
def all : List EventKind :=
  [sourceMissing, tableCascade, tableCascadeFailed, destinationExists, dataLocationShared,
   stagedDataMoved, stagedDataMismatch, dataUpToDate, dataCopyDisallowed, sourcePathMissing,
   dataCopied, dataCopyFailed, databaseCreated, metadataCreated, metadataAltered,
   metadataUnchanged, taskComplete]

/-- The name of a kind. -/
def name : EventKind → String
  | sourceMissing => "source_missing"
  | tableCascade => "table_cascade"
  | tableCascadeFailed => "table_cascade_failed"
  | destinationExists => "destination_exists"
  | dataLocationShared => "data_location_shared"
  | stagedDataMoved => "staged_data_moved"
  | stagedDataMismatch => "staged_data_mismatch"
  | dataUpToDate => "data_up_to_date"
  | dataCopyDisallowed => "data_copy_disallowed"
  | sourcePathMissing => "source_path_missing"
  | dataCopied => "data_copied"
  | dataCopyFailed => "data_copy_failed"
  | databaseCreated => "database_created"
  | metadataCreated => "metadata_created"
  | metadataAltered => "metadata_altered"
  | metadataUnchanged => "metadata_unchanged"
  | taskComplete => "task_complete"

/-- The kind of a name. -/
def ofName? (s : String) : Option EventKind := all.find? fun k => k.name == s

/-- What keeps a task from completing is a warning, what changes the destination is worth knowing,
and the rest is for those who look closer. -/
def severity : EventKind → Severity
  | dataCopyFailed | sourceMissing | tableCascade | tableCascadeFailed | dataCopyDisallowed
  | sourcePathMissing => .warning
  | stagedDataMoved | dataCopied | databaseCreated | metadataCreated | metadataAltered
  | taskComplete => .info
  | destinationExists | dataLocationShared | stagedDataMismatch | dataUpToDate
  | metadataUnchanged => .debug

end EventKind

/-- One event of the task for a spec. The details of an event are a mapping, unless it was made up by
someone else. -/
structure Event where
  kind : EventKind
  spec : Spec
  details : Value := .map []
deriving Repr

end CatalogReplication
