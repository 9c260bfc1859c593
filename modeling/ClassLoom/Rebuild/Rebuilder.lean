import ClassLoom.Config.Validation
import ClassLoom.Files.Path
import ClassLoom.Names
import ClassLoom.Zip.Archive

namespace ClassLoom
namespace Rebuild

/-!
# The state of rebuilding an archive

An archive is rebuilt beside itself: its entries are staged in a directory, a copy is written from
there, and the copy takes the place of the archive, which is kept as a backup.  The four paths
differ in their last segment only.

What has been staged is remembered by the key under which it will be found in the directory: the
path below it, with a slash at the end for directories.
-/

open Files (Path)

/-- The archive and the paths beside it. -/
structure WorkingPaths where
  archive : Path
  staging : Path
  copy : Path
  backup : Path
  deriving Repr, DecidableEq, Inhabited

/-- The paths beside an archive. -/
def WorkingPaths.of (artifact : Path) : WorkingPaths :=
  let beside := artifact.parent.child
  { archive := artifact
    staging := beside (artifact.name ++ ".tmp")
    copy := beside ("copy-" ++ artifact.name)
    backup := beside ("old-" ++ artifact.name) }

/-- A staged entry: its name in the archive, its date unless it takes that of the staged file, its
attributes, and whether its content is new. -/
structure StagedEntry where
  name : String
  isDirectory : Bool
  stamp : Option Zip.Timestamp
  attributes : Zip.Attributes
  transformed : Bool
  deriving Repr, DecidableEq, Inhabited

/-- A rebuilder: the paths, what to do with leftovers, the logger, the staged entries in the order
of staging, and the staging directory once it is prepared. -/
structure Rebuilder where
  paths : WorkingPaths
  policy : Config.StagingPolicy
  logger : String
  staged : List (String × StagedEntry)
  root : Option Path
  deriving Inhabited

namespace Rebuilder

/-- A rebuilder that has done nothing. -/
def new (artifact : Path) (policy : Config.StagingPolicy) (logger : String) : Rebuilder :=
  ⟨.of artifact, policy, logger, [], none⟩

end Rebuilder

/-- The entry that describes the archive, with its content. -/
structure Manifest where
  member : Zip.Member
  content : Bytes
  deriving Inhabited

/-- The key of an entry. -/
def keyOf (name : String) (isDirectory : Bool) : String :=
  stagedName name ++ (if isDirectory then "/" else "")

end Rebuild
end ClassLoom
