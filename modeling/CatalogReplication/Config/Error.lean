/-!
# Configuration errors

What can be wrong with a configuration.
-/

namespace CatalogReplication.Config

/-- What is wrong with a configuration. -/
inductive Error where
  | notMapping (path : Option String)
  | sectionMissing (cluster : String)
  | keyMissing (cluster key : String)
  | instanceMissing (name : String)
  | unsetVariable (name text : String)
  | componentsFailed (name : Option String) (path : Option String)
  | loadingFailed (name : String)
  | catalogFailed (cluster : String)
  | noClass
  | argumentsNotMapping
  | notImportable (path : String)
  | hooksNotList
  /-- A fault reported in words. -/
  | reported (text : String)
deriving DecidableEq, Repr

/-- A text, or the word for none. -/
def orNone (t : Option String) : String := t.getD "None"

/-- The wording of an error. -/
def Error.message : Error → String
  | .notMapping path => s!"Config must be a mapping (path: {orNone path})"
  | .sectionMissing cluster => s!"Config section '{cluster}' is missing"
  | .keyMissing cluster key => s!"Config section '{cluster}' requires '{key}'"
  | .instanceMissing name => s!"Couldn't find instance '{name}' in replication config."
  | .unsetVariable name text =>
    s!"Could not find environment variable '{name}' referenced in '{text}'."
  | .componentsFailed name path =>
    "Error while creating backend objects from replication config (instance="
      ++ orNone name ++ "): " ++ orNone path
  | .loadingFailed name => s!"Failed loading {name}"
  | .catalogFailed cluster => s!"Failed loading catalog of {cluster}"
  | .noClass => "Backend config section requires a 'class' attribute"
  | .argumentsNotMapping => "Invalid type for args section"
  | .notImportable path => s!"Can't import '{path}'"
  | .hooksNotList => "'hooks' must be a list of trace hook sections"
  | .reported text => text

end CatalogReplication.Config
