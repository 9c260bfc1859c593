import ClassLoom.Proofs.Failing
import ClassLoom.Rebuild.Serializing
import ClassLoom.Rebuild.Swap

namespace ClassLoom
namespace Rebuild

/-!
# How a rebuild can fail

Every step of staging, of writing the new archive and of putting it in place fails in a way that is
foreseen.  An entry that cannot be read is reported by its name if the reading is refused or finds damage;
any other cause goes through as it is.
-/

open Failure (Foreseen)
open Files (FileTree FileWork Path)

/-! ## Staging -/

theorem foreseen_rebuildFailure (cause : FileFailure → ArchiveCause) {failure : Failure}
    (foreseen : failure.Foreseen) : ((rebuildFailure cause failure).getD failure).Foreseen := by
  cases failure with
  | fileOperation below => exact .own rfl nofun nofun
  | _ => exact foreseen

theorem failsAs_recast {α : Type} (cause : FileFailure → ArchiveCause) {work : Work α}
    (fails : FailsAs Foreseen work) : FailsAs Foreseen (Work.recast (rebuildFailure cause) work) :=
  fails.recast fun _ => foreseen_rebuildFailure cause

namespace Rebuilder

variable (rebuilder : Rebuilder)

theorem failsAs_delete (path : Path) (cause : String → FileFailure → ArchiveCause) :
    FailsAs Foreseen (delete path cause) := by
  unfold delete
  exact failsAs_recast (cause path.toString) (FileWork.failsAs_deleteTree path.toString).onFiles

theorem failsAs_discard (path : Path) (notice : String)
    (cause : String → FileFailure → ArchiveCause) :
    FailsAs Foreseen (rebuilder.discard path notice cause) := by
  refine (failsAs_ask _).bind fun present => ?_
  split
  · exact (FailsAs.write _ _ _ _ _).bind fun _ => failsAs_delete path cause
  · exact .pure ()

theorem failsAs_clearStaging : FailsAs Foreseen rebuilder.clearStaging := by
  refine (failsAs_ask _).bind fun present => ?_
  split
  · split
    · exact (FailsAs.write _ _ _ _ _).bind fun _ => failsAs_delete _ _
    · exact .write _ _ _ _ _
  · exact .pure ()

theorem failsAs_makeStaging : FailsAs Foreseen rebuilder.makeStaging := by
  have makes : FailsAs Foreseen (Work.recast (rebuildFailure (.cannotCreateStaging
      rebuilder.paths.staging.toString)) (Work.onFiles (FileWork.createDirectory
        rebuilder.paths.staging.toString))) :=
    failsAs_recast _ (FileWork.failsAs_createDirectory _).onFiles
  refine (failsAs_ask _).bind fun present => ?_
  split
  · refine (failsAs_ask _).bind fun isDirectory => ?_
    split
    · exact (FailsAs.throw (.own rfl nofun nofun)).bind fun _ => makes
    · exact makes
  · exact makes

theorem failsAs_prepare : FailsAs Foreseen rebuilder.prepare := by
  refine rebuilder.failsAs_clearStaging.bind fun _ => rebuilder.failsAs_makeStaging.bind fun _ => ?_
  refine FailsAs.files.bind fun tree => ?_
  split
  · exact .pure _
  · exact .throw (.fault (.looping _))

theorem failsAs_pathFor (name : String) : FailsAs Foreseen (rebuilder.pathFor name) := by
  unfold pathFor
  split
  · exact .throw (.own rfl nofun nofun)
  · simp only
    split
    · exact .throw (.own rfl nofun nofun)
    · split
      · exact .throw (.fault (.file _))
      · refine FailsAs.files.bind fun tree => ?_
        split
        · exact .throw (.fault (.looping _))
        · split
          · exact .pure _
          · exact .throw (.own rfl nofun nofun)

theorem failsAs_record (member : Zip.Member) (isDirectory transformed : Bool) :
    (rebuilder.record member isDirectory transformed).FailsAs Foreseen := by
  unfold record
  simp only
  split
  · exact Outcome.failsAs_error (.own rfl nofun nofun)
  · exact Outcome.failsAs_ok _

theorem failsAs_stageDirectory (member : Zip.Member) :
    FailsAs Foreseen (rebuilder.stageDirectory member) :=
  (rebuilder.failsAs_pathFor _).bind fun _ =>
    (FileWork.failsAs_createDirectory _).onFiles.bind fun _ =>
      (FailsAs.ofOutcome (rebuilder.failsAs_record member true false)).bind fun _ => .pure _

/-- The ways in which the copying of an entry ends: with nothing written, with the file emptied, or with the
file filled as far as the entry could be read. -/
inductive Copies (file : Nat) (member : Zip.Member) (path : String) (before : Workspace) :
    Option Fault → Workspace → Prop
  | unread {error : Zip.ReadError} :
      member.readParts copyWidth ((before.files.contentOf file).getD []) = .error error →
      Copies file member path before (some (.archive error)) before
  | refused {error : Files.FileError} : before.files.write path [] = .error error →
      Copies file member path before (some (.file error)) before
  | emptied {parts : List Bytes} {stop : Option Zip.ReadError} {cause : Option Fault}
      {emptied : FileTree} {error : Files.FileError} :
      member.readParts copyWidth ((before.files.contentOf file).getD []) = .ok (parts, stop) →
      before.files.write path [] = .ok emptied →
      emptied.write path (Files.copyStream parts []).2 = .error error → stop.map Fault.archive = cause →
      Copies file member path before cause { before with files := emptied }
  | filled {parts : List Bytes} {stop : Option Zip.ReadError} {cause : Option Fault}
      {emptied filled : FileTree} :
      member.readParts copyWidth ((before.files.contentOf file).getD []) = .ok (parts, stop) →
      before.files.write path [] = .ok emptied →
      emptied.write path (Files.copyStream parts []).2 = .ok filled → stop.map Fault.archive = cause →
      Copies file member path before cause { before with files := filled }

/-- Copying itself does not fail. -/
theorem copies_of_copyEntry {file : Nat} {member : Zip.Member} {path : String} {before after : Workspace}
    {outcome : Outcome (Option Fault)} (run : copyEntry file member path before = (outcome, after)) :
    ∃ stop, outcome = .ok stop ∧ Copies file member path before stop after := by
  unfold copyEntry at run
  rw [Work.files_bind] at run
  cases parted : member.readParts copyWidth ((before.files.contentOf file).getD []) with
  | error error =>
      rw [parted] at run
      obtain ⟨rfl, rfl⟩ := pure_ok run
      exact ⟨_, rfl, .unread parted⟩
  | ok result =>
      obtain ⟨parts, stop⟩ := result
      rw [parted] at run
      simp only at run
      rw [Work.files_bind] at run
      cases cleared : before.files.write path [] with
      | error error =>
          rw [cleared] at run
          obtain ⟨rfl, rfl⟩ := pure_ok run
          exact ⟨_, rfl, .refused cleared⟩
      | ok emptied =>
          rw [cleared] at run
          rcases bind_cases run with ⟨_, stored, _⟩ | ⟨_, middle, stored, answer⟩
          · cases stored
          obtain ⟨rfl, rfl⟩ := pure_ok answer
          obtain ⟨_, rfl⟩ := Prod.mk.inj stored
          refine ⟨_, rfl, ?_⟩
          cases full : emptied.write path (Files.copyStream parts []).2 with
          | error error => exact .emptied parted cleared full rfl
          | ok filled => exact .filled parted cleared full rfl

theorem copyEntry_ne_error (file : Nat) (member : Zip.Member) (path : String) {failure : Failure}
    {before after : Workspace} : copyEntry file member path before ≠ (.error failure, after) := by
  intro run
  obtain ⟨_, failed, _⟩ := copies_of_copyEntry run
  cases failed

/-- What stops the copying of an entry is a refusal of its file, or of the archive. -/
theorem cause_of_copyEntry {file : Nat} {member : Zip.Member} {path : String} {cause : Fault}
    {before after : Workspace} (run : copyEntry file member path before = (.ok (some cause), after)) :
    (∃ error, cause = .file error) ∨ ∃ error, cause = .archive error := by
  obtain ⟨stop, same, copies⟩ := copies_of_copyEntry run
  obtain rfl := Except.ok.inj same
  cases copies with
  | unread _ => exact .inr ⟨_, rfl⟩
  | refused _ => exact .inl ⟨_, rfl⟩
  | emptied _ _ _ halted =>
      obtain ⟨error, _, rfl⟩ := Option.map_eq_some_iff.1 halted
      exact .inr ⟨error, rfl⟩
  | filled _ _ _ halted =>
      obtain ⟨error, _, rfl⟩ := Option.map_eq_some_iff.1 halted
      exact .inr ⟨error, rfl⟩

/-- An entry is copied to a file that can be emptied. -/
theorem exists_write_of_copyEntry {file : Nat} {member : Zip.Member} {path : String}
    {before after : Workspace} (run : copyEntry file member path before = (.ok none, after)) :
    ∃ emptied, before.files.write path [] = .ok emptied := by
  obtain ⟨_, same, copies⟩ := copies_of_copyEntry run
  obtain rfl := Except.ok.inj same
  cases copies with
  | emptied _ cleared _ _ => exact ⟨_, cleared⟩
  | filled _ cleared _ _ => exact ⟨_, cleared⟩

/-- A reading fault escapes unless it is put into a failure of the tool's own, as damage and refusals
are. -/
theorem foreseen_of_uncaught {cause : Fault}
    (below : (∃ error, cause = .file error) ∨ ∃ error, cause = .archive error)
    (uncaught : (cause.isSystem || cause.isDamage) ≠ true) : (Failure.fault cause).Foreseen := by
  rw [ne_eq, Bool.or_eq_true, not_or, Bool.not_eq_true, Bool.not_eq_true] at uncaught
  rcases below with ⟨error, rfl⟩ | ⟨error, rfl⟩
  · exact .fault (.file error)
  · exact .fault (.reading uncaught.1 uncaught.2)

theorem failsAs_stageCopy (file : Nat) (member : Zip.Member) :
    FailsAs Foreseen (rebuilder.stageCopy file member) := by
  refine (rebuilder.failsAs_pathFor _).bind fun path =>
    (FileWork.failsAs_createDirectory _).onFiles.bind fun _ => ?_
  intro before failure after run
  rcases bind_cases run with ⟨cause, stopped, same⟩ | ⟨stop, middle, copying, further⟩
  · exact absurd stopped (copyEntry_ne_error file member _)
  · cases stop with
    | some cause =>
        simp only at further
        split at further
        · obtain rfl := Except.error.inj (throw_error further).1
          exact .own rfl nofun nofun
        next uncaught =>
          obtain rfl := Except.error.inj (throw_error further).1
          exact foreseen_of_uncaught (cause_of_copyEntry copying) uncaught
    | none =>
        exact ((FailsAs.ofOutcome (rebuilder.failsAs_record member false false)).bind fun _ =>
          FailsAs.pure _) further

/-! ## The new archive -/

theorem failsAs_stampOf (moment : Files.Moment) : (stampOf moment).FailsAs Foreseen := by
  unfold stampOf
  split
  · exact Outcome.failsAs_ok _
  · exact Outcome.failsAs_error (.fault (.packing _))

theorem failsAs_directoryRecord (entry : StagedEntry) (clock : Files.Moment) :
    (entry.directoryRecord clock).FailsAs Foreseen := by
  unfold StagedEntry.directoryRecord
  cases entry.stamp with
  | some stamp => exact Outcome.failsAs_ok _
  | none =>
      cases stamped : stampOf clock with
      | ok stamp => exact Outcome.failsAs_ok _
      | error failure => exact Outcome.failsAs_error (failsAs_stampOf clock stamped)

theorem failsAs_fileRecord (entry : StagedEntry) (file : Files.File) :
    (entry.fileRecord file).FailsAs Foreseen := by
  unfold StagedEntry.fileRecord
  cases entry.stamp with
  | some stamp => exact Outcome.failsAs_ok _
  | none =>
      cases stamped : stampOf file.modified with
      | ok stamp => exact Outcome.failsAs_ok _
      | error failure => exact Outcome.failsAs_error (failsAs_stampOf file.modified stamped)

theorem failsAs_collectDirectory (key : String) (written : Written) :
    FailsAs Foreseen (collectDirectory rebuilder key written) := by
  unfold collectDirectory
  split
  · exact FailsAs.files.bind fun tree =>
      (FailsAs.ofOutcome (failsAs_directoryRecord _ _)).bind fun _ => .pure _
  · exact .pure _

theorem failsAs_collectFile (path : Path) (key : String) (written : Written) :
    FailsAs Foreseen (collectFile rebuilder path key written) := by
  unfold collectFile
  split
  · exact (failsAs_ask _).bind fun found =>
      (FailsAs.ofOutcome (failsAs_fileRecord _ _)).bind fun _ => .pure _
  · exact (FailsAs.write _ _ _ _ _).bind fun _ => .pure _

theorem failsAs_collect (depth : Nat) (directory : Path) (above : String) (written : Written) :
    FailsAs Foreseen (collect rebuilder depth directory above written) := by
  induction depth generalizing directory above written with
  | zero => exact .pure written
  | succ depth inductionHypothesis =>
      unfold collect
      refine (failsAs_ask _).bind fun names => .foldlM (fun written item => ?_) names written
      refine (failsAs_ask _).bind fun isDirectory => ?_
      split
      · exact (rebuilder.failsAs_collectDirectory _ written).bind (inductionHypothesis _ _)
      · refine (failsAs_ask _).bind fun isFile => ?_
        split
        · exact rebuilder.failsAs_collectFile _ _ written
        · exact .pure written

theorem failsAs_archiveBytes (root : Path) (manifest : Option Manifest) :
    FailsAs Foreseen (rebuilder.archiveBytes root manifest) := by
  refine (rebuilder.failsAs_collect _ _ _ _).bind fun written => ?_
  simp only
  split
  · exact (FailsAs.throw (.own rfl nofun nofun)).bind fun _ => .pure _
  · exact .pure _

theorem failsAs_putCopy (content : Bytes) : FailsAs Foreseen (rebuilder.putCopy content) := by
  refine FailsAs.onFiles (FailsAs.get.bind fun tree => ?_)
  split
  · exact .set _
  · exact .throw (.fault (.file _))

theorem failsAs_writeCopy (root : Path) (manifest : Option Manifest) :
    FailsAs Foreseen (rebuilder.writeCopy root manifest) :=
  (rebuilder.failsAs_putCopy []).bind fun _ =>
    (rebuilder.failsAs_archiveBytes root manifest).bind fun content => rebuilder.failsAs_putCopy content

theorem failsAs_discardCopy : FailsAs Foreseen rebuilder.discardCopy := by
  refine FailsAs.attempt (FileWork.failsAs_deleteTree _).onFiles fun outcome fails => ?_
  split
  · exact .pure _
  · exact .write _ _ _ _ _
  · exact .throw (fails rfl)

theorem foreseen_writeFailure (copy : String) {failure : Failure} (foreseen : failure.Foreseen) :
    (writeFailure copy failure).Foreseen := by
  unfold writeFailure
  split
  · split
    · exact .own rfl nofun nofun
    · exact foreseen
  · exact foreseen

theorem failsAs_serialize (manifest : Option Manifest) :
    FailsAs Foreseen (rebuilder.serialize manifest) := by
  unfold serialize
  split
  · exact .throw (.own rfl nofun nofun)
  · refine (rebuilder.failsAs_discard _ _ _).bind fun _ =>
      FailsAs.attempt (rebuilder.failsAs_writeCopy _ manifest) fun outcome fails => ?_
    cases outcome with
    | ok value => exact .pure _
    | error failure =>
        have ends : FailsAs Foreseen (do
            rebuilder.discardCopy
            throw (writeFailure rebuilder.paths.copy.toString failure) : Work Path) :=
          rebuilder.failsAs_discardCopy.bind fun _ => .throw (foreseen_writeFailure _ (fails rfl))
        simp only
        split
        · exact (FailsAs.throw (fails rfl)).bind fun _ => ends
        · exact ends

/-! ## The swap -/

theorem failsAs_moveAside : FailsAs Foreseen rebuilder.moveAside := by
  unfold moveAside
  exact failsAs_recast _ (FileWork.failsAs_renameFile _ _).onFiles

theorem failsAs_moveIn : FailsAs Foreseen rebuilder.moveIn := by
  unfold moveIn
  refine FailsAs.attempt (FileWork.failsAs_renameFile _ _).onFiles fun outcome fails => ?_
  split
  · exact .pure _
  · exact (FailsAs.write _ _ _ _ _).bind fun _ => .throw (.own rfl nofun nofun)
  · exact .throw (fails rfl)

theorem failsAs_finalize : FailsAs Foreseen rebuilder.finalize :=
  (rebuilder.failsAs_discard _ _ _).bind fun _ => rebuilder.failsAs_moveAside.bind fun _ =>
    rebuilder.failsAs_moveIn.bind fun _ => .pure _

theorem failsAs_cleanUp : FailsAs Foreseen rebuilder.cleanUp :=
  (failsAs_delete _ _).bind fun _ => .pure _

end Rebuilder
end Rebuild

end ClassLoom
