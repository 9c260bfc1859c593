import ClassLoom.Proofs.Answering
import ClassLoom.Proofs.Rebuild.Region
import ClassLoom.Proofs.Rebuild.Copy
import ClassLoom.Rebuild.Swap

namespace ClassLoom
namespace Rebuild

/-!
# Rebuilding leaves the objects of a run alone

To stage, to write the new archive and to put it in place is work on files, which is logged.  Neither
the log contexts that have been entered, nor a classpath, nor an invoker is changed by it, and nothing is
printed, whatever it comes to.
-/

open Files (Path FileWork)

namespace Rebuilder

/-! ## The staging directory -/

theorem sameObjects_delete (path : Path) (cause : String → FileFailure → ArchiveCause) :
    Keeps SameObjects (delete path cause) := by
  unfold delete
  exact Work.keeps_recast (sameObjects_onFiles _)

theorem sameObjects_discard (rebuilder : Rebuilder) (path : Path) (notice : String)
    (cause : String → FileFailure → ArchiveCause) :
    Keeps SameObjects (rebuilder.discard path notice cause) := by
  refine (Work.keeps_ask _).bind fun present => ?_
  split
  · exact (Log.keeps_debug _ _).bind fun _ => sameObjects_delete _ _
  · exact keeps_pure ()

theorem sameObjects_clearStaging (rebuilder : Rebuilder) :
    Keeps SameObjects rebuilder.clearStaging := by
  refine (Work.keeps_ask _).bind fun present => ?_
  split
  · split
    · exact (Log.keeps_warning _ _).bind fun _ => sameObjects_delete _ _
    · exact Log.keeps_warning _ _
  · exact keeps_pure ()

theorem sameObjects_makeStaging (rebuilder : Rebuilder) :
    Keeps SameObjects rebuilder.makeStaging := by
  have make : Keeps SameObjects (Work.recast
      (rebuildFailure (.cannotCreateStaging rebuilder.paths.staging.toString))
      (Work.onFiles (FileWork.createDirectory rebuilder.paths.staging.toString))) :=
    Work.keeps_recast (sameObjects_onFiles _)
  refine (Work.keeps_ask _).bind fun present => ?_
  simp only
  split
  · refine (Work.keeps_ask _).bind fun isDirectory => ?_
    split
    · exact (keeps_throw _).bind fun _ => make
    · exact make
  · exact make

theorem sameObjects_prepare (rebuilder : Rebuilder) : Keeps SameObjects rebuilder.prepare := by
  refine (sameObjects_clearStaging rebuilder).bind fun _ =>
    (sameObjects_makeStaging rebuilder).bind fun _ => Work.keeps_files.bind fun tree => ?_
  split
  · exact keeps_pure _
  · exact keeps_throw _

theorem sameObjects_cleanUp (rebuilder : Rebuilder) : Keeps SameObjects rebuilder.cleanUp :=
  (sameObjects_delete _ _).bind fun _ => keeps_pure _

/-! ## Entries -/

theorem sameObjects_stageDirectory (rebuilder : Rebuilder) (member : Zip.Member) :
    Keeps SameObjects (rebuilder.stageDirectory member) :=
  (keeps_pathFor rebuilder member.name).bind fun _ => (sameObjects_onFiles _).bind fun _ =>
    (Work.keeps_ofOutcome _).bind fun _ => keeps_pure _

theorem sameObjects_copyEntry (file : Nat) (member : Zip.Member) (path : String) :
    Keeps SameObjects (copyEntry file member path) := by
  refine Work.keeps_files.bind fun tree => ?_
  split
  · exact keeps_pure _
  · refine Work.keeps_files.bind fun tree => ?_
    split
    · exact keeps_pure _
    · exact (keeps_modify fun _ => ⟨rfl, rfl, rfl, rfl⟩).bind fun _ => keeps_pure _

theorem sameObjects_stageCopy (rebuilder : Rebuilder) (file : Nat) (member : Zip.Member) :
    Keeps SameObjects (rebuilder.stageCopy file member) := by
  refine (keeps_pathFor rebuilder member.name).bind fun path => (sameObjects_onFiles _).bind fun _ =>
    (sameObjects_copyEntry file member _).bind fun stopped => ?_
  cases stopped with
  | some cause =>
      simp only
      split
      · exact keeps_throw _
      · exact keeps_throw _
  | none => exact (Work.keeps_ofOutcome _).bind fun _ => keeps_pure _

/-! ## The new archive -/

theorem sameObjects_discardCopy (rebuilder : Rebuilder) :
    Keeps SameObjects rebuilder.discardCopy := by
  refine (Work.keeps_attempt (sameObjects_onFiles _)).bind fun outcome => ?_
  split
  · exact keeps_pure ()
  · exact Log.keeps_warning _ _
  · exact keeps_throw _

theorem sameObjects_writeCopy (rebuilder : Rebuilder) (root : Path) (manifest : Option Manifest) :
    Keeps SameObjects (rebuilder.writeCopy root manifest) :=
  (sameObjects_onFiles _).bind fun _ =>
    (keeps_archiveBytes rebuilder root manifest).bind fun _ => sameObjects_onFiles _

theorem sameObjects_serialize (rebuilder : Rebuilder) (manifest : Option Manifest) :
    Keeps SameObjects (rebuilder.serialize manifest) := by
  unfold serialize
  split
  · exact keeps_throw _
  next root _ =>
    refine (sameObjects_discard rebuilder _ _ _).bind fun _ =>
      (Work.keeps_attempt (sameObjects_writeCopy rebuilder root manifest)).bind fun outcome => ?_
    have failing (failure : Failure) : Keeps SameObjects (do
        rebuilder.discardCopy
        throw (writeFailure rebuilder.paths.copy.toString failure) : Work Path) :=
      (sameObjects_discardCopy rebuilder).bind fun _ => keeps_throw _
    cases outcome with
    | ok _ => exact keeps_pure _
    | error failure =>
        simp only
        split
        · exact (keeps_throw _).bind fun _ => failing failure
        · exact failing failure

/-! ## Putting the new archive in place -/

theorem sameObjects_moveAside (rebuilder : Rebuilder) : Keeps SameObjects rebuilder.moveAside := by
  unfold moveAside
  exact Work.keeps_recast (sameObjects_onFiles _)

theorem sameObjects_moveIn (rebuilder : Rebuilder) : Keeps SameObjects rebuilder.moveIn := by
  refine (Work.keeps_attempt (sameObjects_onFiles _)).bind fun outcome => ?_
  split
  · exact keeps_pure ()
  · exact (Logging.logged _ _ _ _ _).bind fun _ => keeps_throw _
  · exact keeps_throw _

theorem sameObjects_finalize (rebuilder : Rebuilder) : Keeps SameObjects rebuilder.finalize :=
  (sameObjects_discard rebuilder _ _ _).bind fun _ =>
    (sameObjects_moveAside rebuilder).bind fun _ =>
      (sameObjects_moveIn rebuilder).bind fun _ => keeps_pure _

end Rebuilder
end Rebuild
end ClassLoom
