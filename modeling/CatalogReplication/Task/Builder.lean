import CatalogReplication.Failure
import CatalogReplication.Location.Rebase
import CatalogReplication.Record.Any

/-!
# Building destination records

The record that a destination should hold for one of the source: the location is rebased onto the
root of the destination, two parameters say where the record came from and when it last changed
there, and the destination keeps its own stamp and the parameters that it is told to preserve.
-/

namespace CatalogReplication

/-- A cluster: its name, and the location below which its data lies. Both should be texts; what else
they are comes out where they are used. -/
structure Cluster where
  name : Value
  root : Value
deriving Repr

/-- What a cluster reads as: its name, which must be a text. -/
def Cluster.text (c : Cluster) : Except Failure String :=
  match c.name with
  | .text name => .ok name
  | _ => .error .arguments

/-- The parameter that names the cluster from which a record was replicated. -/
def sourceClusterKey : String := "replication.source_cluster"

/-- The parameter that holds the last change of the record that was replicated. -/
def sourceChangeKey : String := "replication.source_last_modified_time"

/-- Whether parameters say that their record was replicated from a cluster. -/
def Parameters.isReplicaOf (p : Parameters) (source : Cluster) : Bool :=
  match source.name with
  | .text name => p.get? sourceClusterKey == some name
  | .null => (p.get? sourceClusterKey).isNone
  | _ => false

/-- Moves a location, if it is one, from the root of one cluster to that of another. -/
def Cluster.rebase (source destination : Cluster) : Value → Except Failure (Option String)
  | .null => .ok none
  | location =>
    match source.root, destination.root, location with
    | .text sourceRoot, .text destinationRoot, .text location =>
      match Location.rebase sourceRoot destinationRoot location with
      | .ok l => .ok (some l)
      | .error _ => .error .authority
    | _, _, _ => .error .member

/-- Builds destination records; `preserved` holds the beginnings of the parameters that the
destination keeps. -/
structure Builder where
  preserved : List Value := []
deriving Inhabited

namespace Builder

/-- The items that a list of beginnings is made of; a text counts as its characters. -/
def ofValue : Value → Except Failure Builder
  | .list items => .ok ⟨items⟩
  | .text s => .ok ⟨s.toList.map fun c => .text c.toString⟩
  | .map fields => .ok ⟨fields.map fun e => .text e.1⟩
  | _ => .error .arguments

/-- Whether a text starts with one of the beginnings; only texts may be tried. -/
def startsWithOne (key : String) : List Value → Except Failure Bool
  | [] => .ok false
  | .text start :: rest =>
    if start.toList.isPrefixOf key.toList then .ok true else startsWithOne key rest
  | _ :: _ => .error .arguments

/-- Adds the entries of the destination that are to be preserved and have no new value. -/
def preserve (b : Builder) : List (String × String) → Parameters → Except Failure Parameters
  | [], p => .ok p
  | (k, v) :: rest, p =>
    if (p.get? k).isSome then b.preserve rest p
    else
      match startsWithOne k b.preserved with
      | .error e => .error e
      | .ok true => b.preserve rest (p.insert k v)
      | .ok false => b.preserve rest p

/-- The parameters of the source with those that tell where they came from. -/
def provenance (source : Cluster) (p : Parameters) : Parameters :=
  let q := p.comparable.insert sourceClusterKey source.name.display
  match p.get? lastChangeKey with
  | some time => q.insert sourceChangeKey time
  | none => q

/-- The parameters of a destination record. -/
def parameters (b : Builder) (source : Cluster) (p : Parameters) (existing : Option Body) :
    Except Failure Parameters :=
  match existing with
  | none => .ok (provenance source p)
  | some e => b.preserve e.parameters.entries (provenance source p)

/-- The body of a destination record. -/
def body (b : Builder) (source destination : Cluster) (record : Body) (existing : Option Body) :
    Except Failure Body := do
  let parameters ← b.parameters source record.parameters existing
  let location ← source.rebase destination (.ofText? record.location)
  return { location, parameters, stamp := (existing.map Body.stamp).getD {} }

/-- The record that the destination should hold. -/
def build {ρ : Type} [Maintained ρ] (b : Builder) (source destination : Cluster) (record : ρ)
    (existing : Option ρ) : Except Failure ρ := do
  let body ← b.body source destination (Maintained.body record) (existing.map Maintained.body)
  return Maintained.withBody body record

/-- The record that the destination should hold, for records of any kind. -/
def buildAny (b : Builder) (source destination : Cluster) (record : AnyRecord)
    (existing : Option AnyRecord) : Except Failure CatalogRecord := do
  match record, existing with
  | .object r, none => b.build source destination r none
  | .object r, some (.object e) => b.build source destination r (some e)
  | .object r, some (.database d) =>
    let _ ← b.body source destination r.body (some { parameters := d.parameters })
    .error .member
  | .database d, e =>
    let existing : Option Body := e.map fun x => { parameters := x.parameters }
    let record : Body := { location := d.location, parameters := d.parameters }
    let _ ← b.body source destination record existing
    match e with
    | some (.database _) => .error .member
    | _ => .error .arguments

/-- The database that the destination should hold; without a model it is an empty one. -/
def buildDatabase (source destination : Cluster) (record : Option DatabaseRecord) (name : String) :
    Except Failure DatabaseRecord :=
  match record with
  | none => .ok { name, parameters := Parameters.insert sourceClusterKey source.name.display {} }
  | some d => do
    let location ← source.rebase destination (.ofText? d.location)
    return { d with
      location
      parameters := d.parameters.insert sourceClusterKey source.name.display }

end Builder

end CatalogReplication
