import CatalogReplication.Console.Logging
import CatalogReplication.Trace.Event

/-!
# Trace hooks

A hook hears every event of a task. It may log it, keep it, or pass it on to other hooks.
-/

namespace CatalogReplication

/-- A line in the log. -/
structure LogLine where
  severity : Severity
  event : String
  fields : List (String × Value)
deriving Repr

namespace Event

/-- The line that tells an event; its details, which must be a mapping, come after the names of the
logger and the spec. -/
def logLine (e : Event) : Except Failure LogLine :=
  match e.details with
  | .map details =>
    if details.any fun d => d.1 == "spec" || Console.reservedNames.contains d.1 then
      .error .arguments
    else
      .ok {
        severity := e.kind.severity
        event := e.kind.name
        fields := Assoc.putAll details
          [("logger_name", .text "PrintTraceHook"), ("spec", .text e.spec.text)] }
  | _ => .error .arguments

end Event

/-- What hears events. Among several hooks there may be strangers, which can't hear. -/
inductive Hook (α : Type) where
  | silent
  | logging
  | recording (events : List Event)
  | several (hooks : List (Hook α))
  | stranger (a : α)

namespace Hook

variable {α : Type}

/-- What came of hearing: the hooks afterwards, the lines in the log, and what went wrong. -/
structure Heard (η : Type) where
  hooks : η
  lines : List LogLine := []
  result : Except Failure Unit := .ok ()

mutual

/-- Has a hook hear an event. -/
def hear (e : Event) : Hook α → Heard (Hook α)
  | silent => { hooks := silent }
  | logging =>
    match e.logLine with
    | .ok line => { hooks := logging, lines := [line] }
    | .error failure => { hooks := logging, result := .error failure }
  | recording events => { hooks := recording (events ++ [e]) }
  | several hooks =>
    let r := hearEach e hooks
    { r with hooks := several r.hooks }
  | stranger a => { hooks := stranger a, result := .error .member }

/-- Has hooks hear an event one after the other, up to the first that something goes wrong with. -/
def hearEach (e : Event) : List (Hook α) → Heard (List (Hook α))
  | [] => { hooks := [] }
  | h :: rest =>
    let first := hear e h
    match first.result with
    | .error failure =>
      { hooks := first.hooks :: rest, lines := first.lines, result := .error failure }
    | .ok () =>
      let others := hearEach e rest
      { hooks := first.hooks :: others.hooks
        lines := first.lines ++ others.lines
        result := others.result }

end

/-- The events that a hook keeps itself. -/
def events : Hook α → List Event
  | recording events => events
  | _ => []

end Hook

/-- The kinds of recorded events, all or those about a spec. -/
def Event.kinds (about : Option Spec) (events : List Event) : List EventKind :=
  (events.filter fun e => about.all fun s => decide (e.spec = s)).map Event.kind

/-- The recorded events of a kind. -/
def Event.ofKind (kind : EventKind) (events : List Event) : List Event :=
  events.filter fun e => decide (e.kind = kind)

end CatalogReplication
