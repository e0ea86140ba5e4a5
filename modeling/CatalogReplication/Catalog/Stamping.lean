import CatalogReplication.Catalog.Error
import CatalogReplication.Catalog.Request
import CatalogReplication.Record.Comparable

/-!
# What catalogs keep up

A catalog stamps every record that it stores: it sets the times, numbers the record, and notes the
time of the change among the parameters. What the client wrote into these fields doesn't count.
-/

namespace CatalogReplication.Catalog

/-- When a record was created: at the stored time, or now if there is none. -/
def createTime (now : Int) : Option Int → Int
  | some t => if t = 0 then now else t
  | none => now

/-- A body as it is stored. -/
def stampBody (now id : Int) (created : Option Int) (b : Body) : Body :=
  { b with
    parameters := b.parameters.insert lastChangeKey (toString now)
    stamp := {
      createTime := some (createTime now created)
      lastAccessTime := none
      catalogId := some id } }

/-- A record as it is stored. -/
def stamp {ρ : Type} [Maintained ρ] (now id : Int) (created : Option Int) (r : ρ) : ρ :=
  Maintained.withBody (stampBody now id created (Maintained.body r)) r

end CatalogReplication.Catalog
