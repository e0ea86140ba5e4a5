import CatalogReplication.Catalog.Request
import CatalogReplication.Program
import CatalogReplication.Task.ConflictPolicy
import CatalogReplication.Task.Outcome
import CatalogReplication.Trace.Event
import CatalogReplication.Transfer.Request

/-!
# What a task does to the world

A task is a program whose calls go to the two catalogs, to whoever carries data, and to whoever hears
its events. Its notes are warnings.
-/

namespace CatalogReplication

namespace Task

/-- A call of a task. -/
inductive Call where
  | source (r : Catalog.Request)
  | destination (r : Catalog.Request)
  | transfer (r : Transfer.Request)
  | hear (e : Event)

/-- What answers a call. -/
abbrev Call.Answer : Call → Type
  | .source r => r.Answer
  | .destination r => r.Answer
  | .transfer r => r.Answer
  | .hear _ => Unit

end Task

/-- A procedure of a task. -/
abbrev TaskProgram := Program Task.Call Task.Call.Answer Overwrite Failure

namespace TaskProgram

/-- Asks the catalog of the source. -/
def source (r : Catalog.Request) : TaskProgram r.Answer := Program.perform (Task.Call.source r)

/-- Asks the catalog of the destination. -/
def destination (r : Catalog.Request) : TaskProgram r.Answer :=
  Program.perform (Task.Call.destination r)

/-- Asks about directory trees. -/
def transfer (r : Transfer.Request) : TaskProgram r.Answer := Program.perform (Task.Call.transfer r)

/-- Has data carried; that the transfer failed is an answer, other failures end the procedure. -/
def tryTransfer (r : Transfer.Request) : TaskProgram (Except Transfer.Error r.Answer) :=
  .call (.transfer r) fun
    | .ok a => .done (.ok a)
    | .error (.transfer e) => .done (.error e)
    | .error e => .fail e

/-- Emits an event. -/
def emit (spec : Spec) (kind : EventKind) (details : List (String × Value)) : TaskProgram Unit :=
  Program.perform (Task.Call.hear { kind, spec, details := .map details })

end TaskProgram

end CatalogReplication
