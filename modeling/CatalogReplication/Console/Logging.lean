import CatalogReplication.Console.Renderer
import CatalogReplication.Console.Severity
import CatalogReplication.Console.Template

/-!
# Logging to a console

A logger writes the messages whose severity reaches its limit to a console. Messages come from the
library itself, with keys bound to a logger and keys of their own, or from others, as templates with
arguments and the name of a logger.
-/

namespace CatalogReplication.Console

/-- What is logged. -/
inductive Message where
  | own (level event : Value) (bound extra : Fields)
  | foreign (level logger template : Value) (arguments : List Value)
deriving Repr

/-- What writes to a console: the least severity that it writes, and how. -/
structure Logger where
  limit : Int := Severity.info.number
  timestamp : String
  renderer : Renderer := { blockKeys := ["source_record", "destination_record"] }

/-- The names that a message of the library can't have as keys. -/
def reservedNames : List String := ["self", "level", "event", "method_name"]

/-- The number of a level; a number with a fraction is only one if there is nothing behind its
point. -/
def levelNumber : Value → Except Failure Int
  | .real x => if x.isWhole then .ok x.whole else .error .keyMissing
  | v =>
    match integer? v with
    | some n => .ok n
    | none => .error .arguments

/-- The name that a logger has in a line; the one without a name is the root of all. -/
def loggerName (v : Value) : Except Failure Value :=
  if !v.truthy then .ok (.text "root")
  else
    match v with
    | .text s => .ok (.text s)
    | _ => .error .arguments

/-- The failure of filling a template. -/
def TemplateError.failure : TemplateError → Failure
  | .arguments => .arguments
  | .directive => .other "ValueError"
  | .keyMissing => .keyMissing
  | .range => .other "OverflowError"
  | .space => .other "MemoryError"

/-- The keys that tell how to log; nothing that can be said in a message is a value for them. -/
def settingKeys : List String :=
  ["processors", "wrapper_class", "context_class", "cache_logger_on_first_use"]

/-- What is bound to a logger, without what tells how to log. -/
def boundFields (bound : Fields) : Except Failure Fields :=
  let isSet (name : String) : Bool := ((bound.lookup name).getD .null).truthy
  if Assoc.hasKey "logger" bound || Assoc.hasKey "logger_factory_args" bound then
    .error .arguments
  else if isSet "wrapper_class" || isSet "context_class" then .error .arguments
  else .ok (bound.filter fun e => !settingKeys.contains e.1)

namespace Logger

/-- A logger that writes messages from a limit on: a severity, by its number or its name, or all. -/
def ofLimit (limit : Value) (timestamp : String) : Except Failure Logger :=
  match limit with
  | .null => .error .keyMissing
  | .text name =>
    match Severity.limits.lookup name with
    | some limit => .ok { limit, timestamp }
    | none => .error (if name == "FATAL" then .keyMissing else .other "ValueError")
  | v =>
    match integer? v with
    | none => .error .arguments
    | some limit =>
      if limit = 0 ∨ (Severity.ofNumber? limit).isSome then .ok { limit, timestamp }
      else .error .keyMissing

/-- The lines for an event with a severity. -/
def write (l : Logger) (severity : Severity) (event : Value) (fields : Fields) :
    Except Failure String := do
  let head : Fields :=
    (if event.isNull then [] else [("event", event)])
      ++ [("level", .text severity.name), ("timestamp", .text l.timestamp)]
  let fields := Assoc.erase "stack_info" (Assoc.putAll head fields)
  return (← l.renderer.render fields) ++ "\n"

/-- What is written for an event, if its severity reaches the limit. -/
def event (l : Logger) (level : Int) (write : Severity → Except Failure String) :
    Except Failure String :=
  if level < l.limit then .ok ""
  else
    match Severity.ofNumber? level with
    | none => .error .keyMissing
    | some severity => write severity

/-- What is written for a message. -/
def message (l : Logger) : Message → Except Failure String
  | .own level event bound extra => do
    let fields ← boundFields bound
    if extra.any fun e => ["self", "level", "event"].contains e.1 then throw .arguments
    l.event (← levelNumber level) fun severity =>
      if Assoc.hasKey "method_name" extra then .error .arguments
      else if !((bound.lookup "processors").getD .null).isNull then .error .arguments
      else l.write severity event (Assoc.putAll extra fields)
  | .foreign level logger template arguments => do
    let logger ← loggerName logger
    match integer? level with
    | none => .error .arguments
    | some level =>
      if level < l.limit ∨ level ≤ 0 then return ""
      else
        match fill template.display (.ofList arguments) with
        | .error e => .error e.failure
        | .ok event =>
          l.event level fun severity => l.write severity (.text event) [("logger", logger)]

/-- What is written for messages. -/
def messages (l : Logger) : List Message → Except Failure String
  | [] => .ok ""
  | m :: rest => do
    let first ← l.message m
    return first ++ (← l.messages rest)

end Logger

end CatalogReplication.Console
