import CatalogReplication.Assoc
import CatalogReplication.Failure

/-!
# How data is carried

The settings of whoever carries data. They are taken as they come: what is wrong with one of them
comes out where it is used.
-/

namespace CatalogReplication.Transfer

/-- The number of bytes that are carried at once unless something else is said. -/
def defaultBlockSize : Int := 8 * 1024 * 1024

/-- How trees are carried. -/
structure Options where
  /-- The folder for copies on their way; beside the destination if there is none. -/
  scratchRoot : Value := .null
  /-- What every disk is accessed with. -/
  storage : Value := .map []
  blockSize : Value := .int defaultBlockSize
deriving Repr, Inhabited

namespace Options

/-- Reads settings from arguments by their names. -/
def ofArguments (args : Assoc String Value) : Except Failure Options :=
  if args.all fun a => ["tmp_root", "storage_options", "block_size"].contains a.1 then
    let storage := (args.lookup "storage_options").getD .null
    .ok {
      scratchRoot := (args.lookup "tmp_root").getD .null
      storage := if storage.truthy then storage else .map []
      blockSize := (args.lookup "block_size").getD (.int defaultBlockSize) }
  else .error .arguments

/-- Reads settings. -/
def ofValue : Value → Except Failure Options
  | .map args => ofArguments args
  | _ => .error .arguments

/-- Whether disks can be accessed at all: with named options, none of which stands for the
location. -/
def canAccess (o : Options) : Bool :=
  match o.storage with
  | .map options => !Assoc.hasKey "url" options
  | _ => false

/-- Whether a disk counts as another one each time that it is accessed. -/
def accessesAnew (o : Options) : Bool :=
  ((o.storage.field? "skip_instance_cache").map Value.truthy).getD false

/-- Whether files can be read in blocks of the size; without a size there is a usual one. -/
def canRead (o : Options) : Bool :=
  match o.blockSize with
  | .int _ | .bool _ => true
  | size => !size.truthy

end Options

end CatalogReplication.Transfer
