import CatalogReplication.Trace.Hook

/-!
# Trying out trace hooks

Events told to a hook that logs, and a script of steps with two hooks that keep what they hear.
-/

namespace CatalogReplication.Lab

/-- Has hooks that log hear events; answers the lines in the log, and how it went. -/
def logEvents (hook : Hook Empty) :
    List (Except Failure Event) → List LogLine × List (Except Failure Unit)
  | [] => ([], [])
  | e :: rest =>
    let (lines, result) : List LogLine × Except Failure Unit :=
      match e with
      | .error failure => ([], .error failure)
      | .ok e =>
        let r := hook.hear e
        (r.lines, r.result)
    let (more, results) := logEvents hook rest
    (lines ++ more, result :: results)

/-- A step with two hooks. -/
inductive HookStep where
  /-- Tells an event to the first hook or to both. -/
  | event (toBoth : Bool) (e : Except Failure Event)
  | clear
  | kinds (about : Except Failure (Option Spec))
  | ofKind (kind : Except Failure EventKind)

/-- What a step with two hooks answers. -/
inductive HookAnswer where
  /-- How many events each of the hooks keeps. -/
  | counts (first second : Nat)
  | kinds (ks : List EventKind)
  | events (es : List Event)

/-- Two hooks that keep what they hear. -/
structure HookPair where
  first : Hook Empty := .recording []
  second : Hook Empty := .recording []

namespace HookPair

/-- How many events each of the hooks keeps. -/
def counts (p : HookPair) : HookAnswer := .counts p.first.events.length p.second.events.length

/-- Tells an event to both hooks, as one hook of several. -/
def tellBoth (e : Event) (p : HookPair) : HookPair :=
  match (Hook.hearEach e [p.first, p.second]).hooks with
  | [first, second] => { first, second }
  | _ => p

/-- Does a step. -/
def step (p : HookPair) : HookStep → Except Failure HookAnswer × HookPair
  | .event toBoth e =>
    match e with
    | .error failure => (.error failure, p)
    | .ok e =>
      let p := if toBoth then p.tellBoth e else { p with first := (p.first.hear e).hooks }
      (.ok p.counts, p)
  | .clear =>
    let p := { p with first := .recording [] }
    (.ok p.counts, p)
  | .kinds about =>
    match about with
    | .error failure => (.error failure, p)
    | .ok about => (.ok (.kinds (Event.kinds about p.first.events)), p)
  | .ofKind kind =>
    match kind with
    | .error failure => (.error failure, p)
    | .ok kind => (.ok (.events (Event.ofKind kind p.first.events)), p)

/-- Does steps one after the other. -/
def steps (p : HookPair) : List HookStep → List (Except Failure HookAnswer)
  | [] => []
  | st :: rest =>
    let (answer, p) := p.step st
    answer :: p.steps rest

end HookPair

end CatalogReplication.Lab
