import CatalogReplication.Files.Walk
import CatalogReplication.Value.Expand

/-!
# Searching for a configuration

A configuration lies in a file with one of two endings. It is looked for where the environment says,
then in the working folder, in the folders above it, and in the home of the user.
-/

namespace CatalogReplication.Config

open Files

/-- The endings of the names of configurations, the first one preferred. -/
def endings : List String := [".yaml", ".yml"]

/-- The name that a configuration has unless something else is said. -/
def defaultName : String := "replication"

/-- The variable that says where the configuration is. -/
def locationVariable : String := "REPLICATION_CONFIG"

/-- Where searches take place. -/
structure Surroundings where
  environment : Environment
  /-- The working folder. -/
  workFolder : Path := []
  host : Tree

/-- The path of a text, taken from a folder unless it begins at the root. -/
def pathFrom (folder : Path) (s : String) : Path := follow (goFrom folder s) []

namespace Surroundings

/-- The home of the administrator, whose commands have no home of their own. -/
def rootHome : String := "/root"

/-- The home that a name at the beginning of a path stands for. -/
def homeOf? (s : Surroundings) (name : String) : Option String :=
  if name == "~" then some ((s.environment.lookup "HOME").getD rootHome)
  else if name == "~root" then some rootHome
  else none

/-- A path with the home for a name at its beginning that stands for one. -/
def expandHome (s : Surroundings) (text : String) : Except Failure String :=
  match text.toList, (namesOf text.toList).filter (· != ".") with
  | '/' :: _, _ => .ok text
  | _, [] => .ok text
  | _, name :: rest =>
    if name.startsWith "~" then
      match s.homeOf? name with
      | none => .error (.other "RuntimeError")
      | some home =>
        if home.startsWith "~" then .error (.other "RuntimeError")
        else if home.isEmpty then .ok ("/" ++ "/".intercalate rest)
        else .ok ("/".intercalate (home :: rest))
    else .ok text

/-- The path that a text leads to, `.` and `..` being done away with. -/
def resolve (s : Surroundings) (text : String) : Path := pathFrom s.workFolder text

/-- Whether there is a file, going along the names one by one. -/
def isFile (s : Surroundings) (names : Path) : Bool :=
  match walk s.host [] names with
  | .ok p => s.host.isFile p
  | .error _ => false

/-- A folder and all those above it. -/
def upward (p : Path) : List Path :=
  (List.range (p.length + 1)).map fun n => p.take (p.length - n)

/-- What a configuration may be called. -/
def fileNames : Value → Except Failure (List String)
  | .text name => .ok (endings.map fun ending => name ++ ending)
  | _ => .error .arguments

/-- The file that the environment points to, or one in the folder that it points to. -/
def pointed? (s : Surroundings) (name : Value) : Except Failure (Option Path) := do
  match s.environment.lookup locationVariable with
  | none | some "" => return none
  | some text =>
    let p := s.resolve (← s.expandHome text)
    if s.isFile p then return some p
    else
      let names ← fileNames name
      return (names.map (goFrom p)).find? s.isFile

/-- The folders in which a configuration is looked for unless some are given. -/
def ownFolders (s : Surroundings) : Except Failure (List Path) := do
  return upward s.workFolder ++ [s.resolve (← s.expandHome "~")]

/-- The folders that are given as a value: the items of a list, the keys of a mapping, or the
characters of a text. -/
def givenFolders (s : Surroundings) : Value → Except Failure (List Path)
  | .list items => items.mapM fun
    | .text folder => .ok (s.resolve folder)
    | _ => .error .arguments
  | .map fields => .ok (fields.map fun e => s.resolve e.1)
  | .text folders => .ok (folders.toList.map fun c => s.resolve c.toString)
  | _ => .error .arguments

/-- The first file of a name in some folders. -/
def findIn? (s : Surroundings) (folders : List Path) (names : List String) : Option Path :=
  (folders.flatMap fun f => names.map (pathFrom f)).find? s.isFile

/-- The path of the configuration of a name: in the folders that are given, or wherever it may be. -/
def find? (s : Surroundings) (name folders : Value) : Except Failure (Option Path) := do
  if folders.isNull then
    match ← s.pointed? name with
    | some p => return some p
    | none =>
      let own ← s.ownFolders
      return s.findIn? own (← fileNames name)
  else
    let given ← s.givenFolders folders
    return s.findIn? given (← fileNames name)

end Surroundings

/-- The location of the configuration of a name. -/
def find (s : Surroundings) (name folders : Value) : Except Failure String := do
  match ← s.find? name folders with
  | some p => return pathText p
  | none => throw .noConfigFile

/-! ### What is found -/

theorem Surroundings.isFile_of_findIn? {s : Surroundings} {folders : List Path}
    {names : List String} {p : Path} (h : s.findIn? folders names = some p) :
    s.isFile p = true :=
  List.find?_some h

end CatalogReplication.Config
