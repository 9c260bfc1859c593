import ClassLoom.Proofs.Rebuild.Unhindered

namespace ClassLoom
namespace Rebuild

/-!
# The outcomes of a swap

A swap that nothing hinders ends in one of three ways, and what is at the three names that it touches
decides which.  With the archive and the copy there, the copy takes the place of the archive, and the
archive that of the backup.  Without the copy the archive has been moved when that is noticed, and stays
where it has been moved to.  Without the archive nothing is moved.  In each case the backup of an earlier
run is gone, and the rest of the tree is as it was.

Where a name is too long, looking at it is refused before any step, and the failure is none of those that
a swap reports; where the way leads through the earlier backup, it is lost when that is deleted.
-/

open Files (FileTree FileWork Path IsName)
open Files.FileTree (Askable)

variable {rebuilder : Rebuilder} {path : Path} {name : String} {directory : Files.Location}
  {tree after : FileTree} {before : Workspace}

/-- The names that a swap touches. -/
def swappedNames (name : String) : List String := [name, "copy-" ++ name, "old-" ++ name]

/-! ## How it ends -/

section Swap

variable (rebuilder name directory tree after)

/-- The ends of a swap: it is done, it has lost the path of the archive, or it has moved nothing. -/
inductive Ended : Outcome Path → Prop
  | swapped :
      tree.at? (directory ++ [name]) ≠ none →
      tree.at? (directory ++ ["copy-" ++ name]) ≠ none →
      SameAt tree (directory ++ [name]) after (directory ++ ["old-" ++ name]) →
      SameAt tree (directory ++ ["copy-" ++ name]) after (directory ++ [name]) →
      EmptyAt after (directory ++ ["copy-" ++ name]) →
      Ended (.ok rebuilder.paths.backup)
  | lost (failure : FileFailure) :
      tree.at? (directory ++ [name]) ≠ none →
      tree.at? (directory ++ ["copy-" ++ name]) = none →
      SameAt tree (directory ++ [name]) after (directory ++ ["old-" ++ name]) →
      EmptyAt after (directory ++ [name]) →
      EmptyAt after (directory ++ ["copy-" ++ name]) →
      Ended (.error (.archiveSwap rebuilder.paths.archive.toString rebuilder.paths.backup.toString
        rebuilder.paths.copy.toString failure))
  | unmoved (failure : FileFailure) :
      tree.at? (directory ++ [name]) = none →
      EmptyAt after (directory ++ ["old-" ++ name]) →
      EmptyAt after (directory ++ [name]) →
      SameAt tree (directory ++ ["copy-" ++ name]) after (directory ++ ["copy-" ++ name]) →
      Ended (.error (.archive (.cannotMoveArchive rebuilder.paths.archive.toString
        rebuilder.paths.backup.toString failure)))

end Swap

/-- A failed swap says whether the path of the archive has been emptied. -/
theorem Ended.kind {failure : Failure} (ended : Ended rebuilder name directory tree after (.error failure)) :
    failure.kind? = some .archiveSwap ∧ tree.at? (directory ++ [name]) ≠ none ∨
      failure.kind? = some .archive ∧ tree.at? (directory ++ [name]) = none := by
  cases ended with
  | lost _ present _ _ _ _ => exact .inl ⟨rfl, present⟩
  | unmoved _ absent _ _ _ => exact .inr ⟨rfl, absent⟩

/-! ## The two renamings -/

theorem moveAside_run {outcome : Outcome Unit} {files : FileTree}
    (renames : FileWork.renameFile rebuilder.paths.archive.toString rebuilder.paths.backup.toString
      before.files = (outcome, files)) :
    rebuilder.moveAside before = (outcome.mapError fun failure => (rebuildFailure (.cannotMoveArchive
      rebuilder.paths.archive.toString rebuilder.paths.backup.toString) failure).getD failure,
      { before with files }) := by
  rw [Rebuilder.moveAside, Work.recast, Work.onFiles_of_run renames]
  cases outcome <;> rfl

theorem moveIn_run {files : FileTree}
    (renames : FileWork.renameFile rebuilder.paths.copy.toString rebuilder.paths.archive.toString
      before.files = (.ok (), files)) :
    rebuilder.moveIn before = (.ok (), { before with files }) := by
  have attempted := Work.onFiles_of_run renames
  rw [Rebuilder.moveIn, Work.attempt_run attempted]
  rfl

theorem moveIn_refused (healthy : before.Healthy) {failure : FileFailure}
    (refuses : FileWork.renameFile rebuilder.paths.copy.toString rebuilder.paths.archive.toString
      before.files = (.error (.fileOperation failure), before.files)) :
    ∃ after, rebuilder.moveIn before = (.error (.archiveSwap rebuilder.paths.archive.toString
      rebuilder.paths.backup.toString rebuilder.paths.copy.toString failure), after) ∧
      Logged before after := by
  have attempted := Work.onFiles_of_run refuses
  obtain ⟨after, telling, logged⟩ := Log.logged_write healthy.quiet rebuilder.logger .error
    "Archive swap failed, original path is empty"
    [("original", .text rebuilder.paths.archive.toString), ("backup", .text rebuilder.paths.backup.toString),
      ("copy", .text rebuilder.paths.copy.toString)] none
  refine ⟨after, ?_, logged⟩
  rw [Rebuilder.moveIn, Work.attempt_run attempted]
  simp only
  rw [bind_of_ok telling]
  rfl

/-! ## The whole of it -/

/-- The archive is at the path of the backup, its own path is empty, and the copy is where it was. -/
structure MovedAside (directory : Files.Location) (name : String) (before aside : Workspace) : Prop where
  healthy : aside.Healthy
  spares : SparesOthers directory (swappedNames name) before.files aside.files
  backup : SameAt before.files (directory ++ [name]) aside.files (directory ++ ["old-" ++ name])
  emptied : EmptyAt aside.files (directory ++ [name])
  copy : SameAt before.files (directory ++ ["copy-" ++ name]) aside.files (directory ++ ["copy-" ++ name])

/-- What is done at the backup leaves the archive as it is. -/
theorem SparesOthers.archive (spares : SparesOthers directory ["old-" ++ name] tree after) :
    SameAt tree (directory ++ [name]) after (directory ++ [name]) :=
  spares.beside (by simp [(backup_ne_archive name).symm])

namespace Unhindered

variable (unhindered : Unhindered rebuilder path name directory (swappedNames name) before)

include unhindered

/-- The backup of an earlier run is gone before anything is moved. -/
theorem discardBackup_run :
    ∃ cleared, rebuilder.discardBackup before = (.ok (), cleared) ∧ cleared.Healthy ∧
      SparesOthers directory ["old-" ++ name] before.files cleared.files ∧
      cleared.files.Reaches path directory ∧ cleared.files.at? directory = some .directory ∧
      EmptyAt cleared.files (directory ++ ["old-" ++ name]) := by
  have among : "old-" ++ name ∈ swappedNames name := by simp [swappedNames]
  obtain ⟨cleared, clears, healthy, spares, empty⟩ := unhindered.discarded_run among unhindered.backup
    "Removing previous backup: " .cannotDeleteBackup
  rw [← unhindered.paths.backup] at clears
  obtain ⟨reaches, alive⟩ := unhindered.open_of_spares (spares.mono (by simp [swappedNames]))
  exact ⟨cleared, clears, healthy, spares, reaches, alive, empty⟩

/-- What is there under the name of the archive is moved aside. -/
theorem movedAside_run {archive : Files.Entry}
    (held : before.files.at? (directory ++ [name]) = some archive) :
    ∃ cleared aside, rebuilder.discardBackup before = (.ok (), cleared) ∧
      rebuilder.moveAside cleared = (.ok (), aside) ∧ MovedAside directory name before aside := by
  have paths := unhindered.paths
  obtain ⟨named, askable⟩ := unhindered.archive
  obtain ⟨namedBackup, askableBackup⟩ := unhindered.backup
  obtain ⟨cleared, clears, healthy, spares, reaches, alive, empty⟩ := unhindered.discardBackup_run
  have heldArchive := spares.archive
  obtain ⟨files, moves, moved⟩ := FileWork.renameFile_run reaches healthy.files alive paths.proper named
    namedBackup askable askableBackup (heldArchive.here.trans held) empty.here
  have touched := SparesOthers.of_moved moved
  rw [← paths.archive, ← paths.backup] at moves
  refine ⟨cleared, _, clears, moveAside_run moves, ⟨moved.sound, healthy.quiet⟩,
    (spares.mono (by simp [swappedNames])).trans (touched.mono (by simp [swappedNames])),
    heldArchive.trans moved.there, moved.gone, ?_⟩
  exact (spares.beside (by simp)).trans
    (touched.beside (by simp))

/-- Without an archive nothing is moved, and the failure says that it could not be. -/
theorem finalize_unmoved (absent : before.files.at? (directory ++ [name]) = none) :
    ∃ failure after, rebuilder.finalize before = (.error (.archive (.cannotMoveArchive
        rebuilder.paths.archive.toString rebuilder.paths.backup.toString failure)), after) ∧
      after.Healthy ∧ SparesOthers directory ["old-" ++ name] before.files after.files ∧
      EmptyAt after.files (directory ++ ["old-" ++ name]) := by
  have paths := unhindered.paths
  obtain ⟨named, askable⟩ := unhindered.archive
  obtain ⟨namedBackup, askableBackup⟩ := unhindered.backup
  obtain ⟨cleared, clears, healthy, spares, reaches, alive, empty⟩ := unhindered.discardBackup_run
  have heldArchive := spares.archive
  obtain ⟨failure, refuses⟩ := FileWork.renameFile_refused reaches alive paths.proper named namedBackup
    askable askableBackup (heldArchive.here.trans absent) empty.here
  rw [← paths.archive, ← paths.backup] at refuses
  refine ⟨failure, cleared, ?_, healthy, spares, empty⟩
  rw [Rebuilder.finalize, bind_of_ok clears]
  exact bind_of_error (moveAside_run refuses)

/-- Without a copy the archive stays where it has been moved to, and the failure names the paths. -/
theorem finalize_lost {archive : Files.Entry}
    (held : before.files.at? (directory ++ [name]) = some archive)
    (absent : before.files.at? (directory ++ ["copy-" ++ name]) = none) :
    ∃ failure after, rebuilder.finalize before = (.error (.archiveSwap rebuilder.paths.archive.toString
        rebuilder.paths.backup.toString rebuilder.paths.copy.toString failure), after) ∧
      MovedAside directory name before after := by
  have paths := unhindered.paths
  obtain ⟨named, askable⟩ := unhindered.archive
  obtain ⟨namedCopy, askableCopy⟩ := unhindered.copy
  obtain ⟨cleared, aside, clears, moves, moved⟩ := unhindered.movedAside_run held
  obtain ⟨reaches, alive⟩ := unhindered.open_of_spares moved.spares
  obtain ⟨failure, refuses⟩ := FileWork.renameFile_refused reaches alive paths.proper namedCopy named
    askableCopy askable (moved.copy.here.trans absent) moved.emptied.here
  rw [← paths.copy, ← paths.archive] at refuses
  obtain ⟨after, loses, logged⟩ := moveIn_refused moved.healthy refuses
  refine ⟨failure, after, ?_, ⟨logged.files ▸ moved.healthy.files, logged.quiet⟩,
    logged.files ▸ moved.spares, logged.files ▸ moved.backup, logged.files ▸ moved.emptied,
    logged.files ▸ moved.copy⟩
  rw [Rebuilder.finalize, bind_of_ok clears, bind_of_ok moves]
  exact bind_of_error loses

/-- With both there the copy becomes the archive, and the archive the backup. -/
theorem finalize_swapped {archive copy : Files.Entry}
    (held : before.files.at? (directory ++ [name]) = some archive)
    (heldCopy : before.files.at? (directory ++ ["copy-" ++ name]) = some copy) :
    ∃ after, rebuilder.finalize before = (.ok rebuilder.paths.backup, after) ∧ after.Healthy ∧
      SparesOthers directory (swappedNames name) before.files after.files ∧
      SameAt before.files (directory ++ [name]) after.files (directory ++ ["old-" ++ name]) ∧
      SameAt before.files (directory ++ ["copy-" ++ name]) after.files (directory ++ [name]) ∧
      EmptyAt after.files (directory ++ ["copy-" ++ name]) := by
  have paths := unhindered.paths
  obtain ⟨named, askable⟩ := unhindered.archive
  obtain ⟨namedCopy, askableCopy⟩ := unhindered.copy
  obtain ⟨cleared, aside, clears, moves, moved⟩ := unhindered.movedAside_run held
  obtain ⟨reaches, alive⟩ := unhindered.open_of_spares moved.spares
  obtain ⟨files, swaps, put⟩ := FileWork.renameFile_run reaches moved.healthy.files alive paths.proper
    namedCopy named askableCopy askable (moved.copy.here.trans heldCopy) moved.emptied.here
  have touched := SparesOthers.of_moved put
  rw [← paths.copy, ← paths.archive] at swaps
  refine ⟨{ aside with files }, ?_, ⟨put.sound, moved.healthy.quiet⟩,
    moved.spares.trans (touched.mono (by simp [swappedNames])), ?_, moved.copy.trans put.there, put.gone⟩
  · rw [Rebuilder.finalize, bind_of_ok clears, bind_of_ok moves, bind_of_ok (moveIn_run swaps)]
    rfl
  · exact moved.backup.trans
      (touched.beside (by simp [(copy_ne_backup name).symm, backup_ne_archive name]))

/-- A swap ends in one of three ways, and touches three places only. -/
theorem ended_of_finalize {outcome : Outcome Path} {later : Workspace}
    (run : rebuilder.finalize before = (outcome, later)) :
    later.Healthy ∧ SparesOthers directory (swappedNames name) before.files later.files ∧
      Ended rebuilder name directory before.files later.files outcome := by
  have sound := unhindered.healthy.files
  cases held : before.files.at? (directory ++ [name]) with
  | none =>
      obtain ⟨failure, last, ends, healthy, spares, empty⟩ := unhindered.finalize_unmoved held
      obtain ⟨rfl, rfl⟩ := Prod.mk.inj (ends.symm.trans run)
      have kept := spares.archive
      exact ⟨healthy, spares.mono (by simp [swappedNames]), .unmoved failure held empty
        (kept.empty (.of_absent sound held)) (spares.beside (by simp))⟩
  | some archive =>
      cases heldCopy : before.files.at? (directory ++ ["copy-" ++ name]) with
      | none =>
          obtain ⟨failure, last, ends, moved⟩ := unhindered.finalize_lost held heldCopy
          obtain ⟨rfl, rfl⟩ := Prod.mk.inj (ends.symm.trans run)
          exact ⟨moved.healthy, moved.spares, .lost failure (by simp [held]) heldCopy moved.backup
            moved.emptied (moved.copy.empty (.of_absent sound heldCopy))⟩
      | some copy =>
          obtain ⟨last, ends, healthy, spares, backup, put, gone⟩ :=
            unhindered.finalize_swapped held heldCopy
          obtain ⟨rfl, rfl⟩ := Prod.mk.inj (ends.symm.trans run)
          exact ⟨healthy, spares, .swapped (by simp [held]) (by simp [heldCopy]) backup put gone⟩

end Unhindered

/-- Where a backup is nothing but a file, a copy that is a file takes the place of the archive. -/
theorem finalize_run {archive copy : Files.File} (paths : Named rebuilder path name)
    (healthy : before.Healthy) (reaches : before.files.Reaches path directory)
    (alive : before.files.at? directory = some .directory)
    (askable : Askable (path.child ("copy-" ++ name)))
    (held : before.files.at? (directory ++ [name]) = some (.file archive))
    (heldCopy : before.files.at? (directory ++ ["copy-" ++ name]) = some (.file copy))
    (bare : before.files.at? (directory ++ ["old-" ++ name]) = none ∨
      ∃ file, before.files.at? (directory ++ ["old-" ++ name]) = some (.file file)) :
    ∃ after, rebuilder.finalize before = (.ok rebuilder.paths.backup, after) := by
  have unhindered : Unhindered rebuilder path name directory (swappedNames name) before := by
    refine unhindered_of_bare paths healthy askable reaches alive ?_
    simp only [swappedNames, List.mem_cons, List.not_mem_nil, or_false]
    rintro other (rfl | rfl | rfl)
    · exact .inr ⟨archive, held⟩
    · exact .inr ⟨copy, heldCopy⟩
    · exact bare
  obtain ⟨after, swaps, _⟩ := unhindered.finalize_swapped held heldCopy
  exact ⟨after, swaps⟩

end Rebuild
end ClassLoom
