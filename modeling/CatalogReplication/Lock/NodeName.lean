import CatalogReplication.Text.Blank
import CatalogReplication.Text.CaseFold
import CatalogReplication.Text.Percent

/-!
# Names of lock nodes

A coordination service keeps a lock at a path. The last name of the path is the key of the lock in
percent encoding, so that different keys never share a node; above it is the name of the instance.
-/

namespace CatalogReplication.Lock

/-- The name of the node that keeps a lock. -/
def nodeName (key : String) : String := String.ofList (Text.Percent.encode key.toList)

/-- The name of an instance as one part of a path. -/
def instanceName (name : String) : String :=
  String.ofList ((Text.trim (Text.foldCase name.toList)).map fun c => if c = '/' then '_' else c)

/-- The path above the locks of an instance. -/
def basePath (instanceId : String) : String := s!"/replication/locks/{instanceName instanceId}/"

end CatalogReplication.Lock
