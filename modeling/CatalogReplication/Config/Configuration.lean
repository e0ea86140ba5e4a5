import CatalogReplication.Failure
import CatalogReplication.Text.Lines
import CatalogReplication.Value.Display
import CatalogReplication.Value.Expand
import CatalogReplication.Value.Merge
import CatalogReplication.Value.Order

/-!
# Configurations

A configuration describes instances of replication. What holds for any of them is laid over the
defaults, and what holds for one over that; then references to the environment are replaced. The
result has to describe a source and a destination.
-/

namespace CatalogReplication.Config

/-- A section that describes a component by its class. -/
def sectionFor (className : String) : Value :=
  .map [("class", .text ("pydiverse.replication." ++ className))]

/-- What holds unless a configuration says something else. -/
def defaults : Value :=
  .map [
    ("allow_data_copy", .bool false),
    ("optimistic_copy_root", .null),
    ("directory_reconciler", sectionFor "backend.directory.FsspecDirectoryReconciler"),
    ("destination_builder", sectionFor "core.policy.DefaultDestinationBuilder"),
    ("conflict_policy", sectionFor "core.policy.LoggingConflictPolicy"),
    ("lock_manager", sectionFor "backend.lock.ThreadLockManager"),
    ("trace_hook", sectionFor "context.trace_hook.PrintTraceHook"),
    ("attrs", .map [])]

/-- The name of the section that holds for any instance. -/
def anyInstance : String := "__any__"

/-- A configuration. -/
structure Configuration where
  fields : Assoc String Value
  /-- Where it was read from. -/
  path : Option String := none
deriving Repr

/-- What a configuration says about an instance. -/
structure Settings where
  configName : Value
  instanceName : Option String
  instanceId : String
  allowCopy : Bool
  stagingRoot : Value
  attributes : Value
  /-- The sections of the clusters and components. -/
  sections : Assoc String Value
deriving Repr

namespace Configuration

/-- A configuration from a mapping. -/
def ofValue (path : Option String) : Value → Except Failure Configuration
  | .map fields => .ok { fields, path }
  | _ => .error (.config (.notMapping path))

/-- The name of a configuration. -/
def name (c : Configuration) : Value := (c.fields.lookup "name").getD .null

/-- The section with the instances; what doesn't count as true is empty. -/
def instances (c : Configuration) : Value :=
  match c.fields.lookup "instances" with
  | some v => if v.truthy then v else .map []
  | none => .map []

/-- What can be named as an instance in a section. -/
def instanceKeys : Value → Except Failure (List Value)
  | .map fields => .ok (fields.map fun e => .text e.1)
  | .list items => .ok items
  | .text s => .ok (s.toList.map fun c => .text c.toString)
  | _ => .error .arguments

/-- The names of the instances. -/
def instanceNames (c : Configuration) : Except Failure (List Value) := do
  let keys ← instanceKeys c.instances
  return keys.filter fun k => !(k == .text anyInstance)

/-- Whether a mapping has a key; what has parts is no key. -/
def hasEntry (fields : Assoc String Value) : Value → Except Failure Bool
  | .text k => .ok (Assoc.hasKey k fields)
  | .list _ | .map _ => .error .arguments
  | _ => .ok false

/-- Whether a section has an instance; in a text, that is a part of it. -/
def hasInstance (name : Value) : Value → Except Failure Bool
  | .map fields => hasEntry fields name
  | .list items => .ok (items.any fun v => v.isSame name)
  | .text s =>
    match name with
    | .text n => .ok (Text.contains n.toList s.toList)
    | _ => .error .arguments
  | _ => .error .arguments

/-- The layers of an instance above the defaults, the lowest first. -/
def layers (c : Configuration) (name : Value) : Except Failure (List Value) := do
  if !name.isNull then
    if !(← hasInstance name c.instances) then
      throw (.config (.instanceMissing name.display))
  match c.instances with
  | .map fields => return (anyInstance :: name.text?.toList).filterMap fun n => fields.lookup n
  | _ => throw .member

/-- Lays layers over a value. -/
def layOver : Value → List Value → Except Failure Value
  | v, [] => .ok v
  | v, layer :: rest =>
    match v.merge layer with
    | .ok merged => layOver merged rest
    | .error _ => .error .layers

/-- The entries that describe an instance, before references are replaced. -/
def merged (c : Configuration) (name : Value) : Except Failure Value := do
  layOver defaults (← c.layers name)

/-- A value with its references to an environment replaced. -/
def expandIn (environment : Environment) (v : Value) : Except Failure Value :=
  match v.expand environment with
  | .ok v => .ok v
  | .error e => .error (.config (.unsetVariable e.name e.text))

/-- The entries that describe an instance, with references replaced. -/
def expanded (c : Configuration) (environment : Environment) (name : Value) :
    Except Failure Value := do
  expandIn environment (← c.merged name)

/-- The section of a cluster, if it has what it needs; unless it says something else, the cluster has
the name of the section. -/
def clusterSection (cluster : String) : Option Value → Except Failure Value
  | some (.map fields) =>
    match ["fs_root", "catalog"].find? fun key => !Assoc.hasKey key fields with
    | some key => .error (.config (.keyMissing cluster key))
    | none =>
      .ok (.map (if Assoc.hasKey "name" fields then fields
        else fields ++ [("name", .text cluster)]))
  | _ => .error (.config (.sectionMissing cluster))

/-- What identifies an instance: an identifier that was given, its name, or the word for any. -/
def instanceIdOf (given : Value) (name : Option String) : String :=
  if given.truthy then given.display
  else
    match name with
    | some n => if n.isEmpty then anyInstance else n
    | none => anyInstance

/-- What a configuration says about an instance in an environment. -/
def settings (c : Configuration) (environment : Environment) (name : Value) :
    Except Failure Settings := do
  let expanded ← c.expanded environment name
  let source ← clusterSection "source" (expanded.field? "source")
  let destination ← clusterSection "destination" (expanded.field? "destination")
  let entry (key : String) : Value := (expanded.field? key).getD .null
  let fields := match expanded with
    | .map fields => fields
    | _ => []
  return {
    configName := c.name
    instanceName := name.text?
    instanceId := instanceIdOf (entry "instance_id") name.text?
    allowCopy := (entry "allow_data_copy").truthy
    stagingRoot := entry "optimistic_copy_root"
    attributes := entry "attrs"
    sections := Assoc.put "destination" destination (Assoc.put "source" source fields) }

end Configuration

namespace Settings

/-- A section of the settings. -/
def sectionAt (key : String) (s : Settings) : Value := (s.sections.lookup key).getD .null

/-- The item at an index, which counts from the end if it is negative. -/
def itemAt (items : List Value) (n : Int) : Except Failure Value :=
  match items[(if n < 0 then n + items.length else n).toNat]? with
  | some v => if -(items.length : Int) ≤ n then .ok v else .error (.other "IndexError")
  | none => .error (.other "IndexError")

/-- The index that a key is, if it is one; truth values count as zero and one. -/
def index? : Value → Option Int
  | .int n => some n
  | .bool b => some (if b then 1 else 0)
  | _ => none

/-- The entry of a value at a key, which is an index where the value is a list or a text. -/
def entryAt (v key : Value) : Except Failure Value :=
  match v, key, index? key with
  | .map fields, .text k, _ =>
    match fields.lookup k with
    | some v => .ok v
    | none => .error .attributeMissing
  | .map _, .list _, _ | .map _, .map _, _ => .error (.other "BoxTypeError")
  | .map _, _, _ => .error .attributeMissing
  | .list items, _, some n => itemAt items n
  | .text s, _, some n => itemAt (s.toList.map fun c => .text c.toString) n
  | _, _, _ => .error .arguments

/-- The attribute at the end of a path. -/
def attributeAt (s : Settings) (path : List Value) : Except Failure Value :=
  path.foldlM entryAt s.attributes

end Settings

end CatalogReplication.Config
