import ClassLoom.Rebuild.Staging

namespace ClassLoom
namespace Rebuild

/-!
# Putting the new archive in place

The archive is renamed to the backup, and then the copy to the archive.  If the first renaming fails
the archive is as it was.  If the second fails its path is empty, which is reported as a failure of
its own and left as it is.
-/

open Config (Value)
open Files (Path FileWork)

namespace Rebuilder

/-- Take away the backup of an earlier run. -/
def discardBackup (rebuilder : Rebuilder) : Work Unit :=
  rebuilder.discard rebuilder.paths.backup "Removing previous backup: " .cannotDeleteBackup

/-- Move the archive to the path of the backup. -/
def moveAside (rebuilder : Rebuilder) : Work Unit :=
  let archive := rebuilder.paths.archive.toString
  let backup := rebuilder.paths.backup.toString
  Work.recast (rebuildFailure (.cannotMoveArchive archive backup))
    (Work.onFiles (FileWork.renameFile archive backup))

/-- Move the copy to the path of the archive, which is empty by now. -/
def moveIn (rebuilder : Rebuilder) : Work Unit := do
  let archive := rebuilder.paths.archive.toString
  let backup := rebuilder.paths.backup.toString
  let copy := rebuilder.paths.copy.toString
  match ← Work.attempt (Work.onFiles (FileWork.renameFile copy archive)) with
  | .ok _ => return
  | .error (.fileOperation failure) =>
    Log.write rebuilder.logger .error "Archive swap failed, original path is empty"
      [("original", .text archive), ("backup", .text backup), ("copy", .text copy)] none
    throw (.archiveSwap archive backup copy failure)
  | .error failure => throw failure

/-- Put the copy in the place of the archive, and answer the path of the backup. -/
def finalize (rebuilder : Rebuilder) : Work Path := do
  rebuilder.discardBackup
  rebuilder.moveAside
  rebuilder.moveIn
  return rebuilder.paths.backup

/-- Delete the staging directory. -/
def cleanUp (rebuilder : Rebuilder) : Work Rebuilder := do
  delete rebuilder.paths.staging .cannotDeleteStaging
  return { rebuilder with root := none }

end Rebuilder
end Rebuild
end ClassLoom
