import ClassLoom.Proofs.Files.Granting
import ClassLoom.Proofs.Rebuild.Beside

namespace ClassLoom
namespace Rebuild

/-!
# Putting the copy in the place of the archive

Up to the first renaming the archive is where it was.  From then on its path is empty, and whatever
prevents the second renaming is reported as a failure of the swap and as nothing else: looking at the
empty path cannot be refused, because the renaming has taken nothing from the way that leads there.
-/

open Files (FileTree FileWork Path IsName IsSegment)

variable {rebuilder : Rebuilder} {artifact : Path} {directory : Files.Location}
  {before after : Workspace}

section Renaming

variable {tree changed : FileTree} {path : Path} {first second : String}

theorem found_of_rename (proper : path.Proper) (firstNamed : IsSegment first)
    (done : tree.rename (path.child first).toString (path.child second).toString = .ok changed) :
    (FileTree.hasNul (path.child first).toString || FileTree.hasNul (path.child second).toString) =
        false ∧
      ∃ spot, tree.find false (path.child first).toString = .ok spot := by
  unfold FileTree.rename at done
  simp only at done
  split at done
  · cases done
  next clean =>
    split at done
    · cases done
    split at done
    next => cases done
    next => cases done
    next origin aim found _ =>
      rw [Path.withoutTrailing_toString (proper.child firstNamed)] at found
      exact ⟨by simpa using clean, origin, found⟩

/-- Renaming takes nothing from any way, unless a link takes the place of another. -/
theorem narrows_of_renamed {source target : Files.Location} {entry : Files.Entry}
    (renamed : FileTree.Renamed tree changed source target entry)
    (plain : (∃ file, entry = .file file) ∨ ∀ aim, tree.at? target ≠ some (.link aim)) :
    FileTree.Narrows tree changed := by
  intro place other held leadsOn
  rw [renamed.places]
  by_cases there : place = target
  · subst there
    rw [if_pos rfl]
    rcases plain with ⟨file, rfl⟩ | bare
    · exact .inr (.inr ⟨file, rfl⟩)
    · cases other with
      | file file => cases leadsOn
      | directory => exact absurd held renamed.vacatable
      | link aim => exact absurd held (bare aim)
  · rw [if_neg there]
    by_cases here : place = source
    · exact .inr (.inl (if_pos here))
    · exact .inl ((if_neg here).trans held)

end Renaming

/-! ## The two renamings -/

section Moving

variable {path : Path} {name : String}

/-- The archive is moved aside, or nothing happens. -/
theorem moveAside_cases (paths : Named rebuilder path name)
    (tracks : before.files.Tracks path name directory) (healthy : before.Healthy)
    {entry : Files.Entry} (held : before.files.at? (directory ++ [name]) = some entry)
    (bare : entry ≠ .directory) {outcome : Outcome Unit}
    (run : rebuilder.moveAside before = (outcome, after)) :
    (outcome = .ok () ∧ after.Healthy ∧ before.files.Reaches path directory ∧
      FileTree.hasNul (path.child name).toString = false ∧ FileTree.Fits path name ∧
      FileTree.Renamed before.files after.files (directory ++ [name]) (directory ++ ["old-" ++ name])
        entry) ∨
    (after = before ∧ ∃ failure, outcome = .error failure) := by
  unfold Rebuilder.moveAside at run
  simp only [paths.archive, paths.backup] at run
  rcases Work.recast_cases run with ⟨_, stage, rfl⟩ | ⟨failure, stage, rfl⟩
  · obtain ⟨files, moved, rfl⟩ := Work.onFiles_cases stage
    rcases FileWork.renameFile_cases moved with ⟨_, _, done⟩ | ⟨_, _, failed, _⟩
    · obtain ⟨clean, spot, found⟩ := found_of_rename paths.proper paths.named.1 done
      have reaches := tracks.reaches found
      obtain ⟨_, _, fits⟩ := FileTree.exists_reaches paths.proper paths.named found
      obtain ⟨other, renamed⟩ := FileTree.renamed_of_rename healthy.files paths.proper reaches
        paths.named (isName_backup paths.named) (backup_ne_archive name).symm
        (fun same => bare (Option.some.inj (held.symm.trans same))) done
      obtain rfl : entry = other := Option.some.inj (held.symm.trans renamed.held)
      exact .inl ⟨rfl, ⟨renamed.sound, healthy.quiet⟩, reaches,
        (Bool.or_eq_false_iff.1 clean).1, fits, renamed⟩
    · cases failed
  · obtain ⟨files, moved, rfl⟩ := Work.onFiles_cases stage
    rcases FileWork.renameFile_cases moved with ⟨answered, _⟩ | ⟨rfl, _⟩
    · cases answered
    · exact .inr ⟨rfl, _, rfl⟩

/-- The copy is moved in, or the failure is that of the swap. -/
theorem moveIn_cases (paths : Named rebuilder path name)
    (tracks : ∀ {other : String}, IsSegment other → before.files.Tracks path other directory)
    (healthy : before.Healthy) (fits : FileTree.Fits path name)
    (empty : before.files.at? (directory ++ [name]) = none)
    {entry : Files.Entry} (held : before.files.at? (directory ++ ["copy-" ++ name]) = some entry)
    (bare : entry ≠ .directory)
    (clean : FileTree.hasNul (path.child name).toString = false)
    (cleanCopy : FileTree.hasNul (path.child ("copy-" ++ name)).toString = false)
    {outcome : Outcome Unit} (run : rebuilder.moveIn before = (outcome, after)) :
    (outcome = .ok () ∧ after.Healthy ∧ before.files.Reaches path directory ∧
      FileTree.Renamed before.files after.files (directory ++ ["copy-" ++ name]) (directory ++ [name])
        entry) ∨
    (after.Healthy ∧ after.files = before.files) ∧
      ∃ archive backup copy failure, outcome = .error (.archiveSwap archive backup copy failure) := by
  unfold Rebuilder.moveIn at run
  simp only [paths.archive, paths.copy] at run
  obtain ⟨result, middle, stage, ending⟩ := Work.attempt_bind run
  obtain ⟨files, moved, rfl⟩ := Work.onFiles_cases stage
  rcases FileWork.renameFile_cases moved with ⟨rfl, _, done⟩ | ⟨rfl, failure, rfl, cause⟩
  · obtain ⟨rfl, rfl⟩ := pure_ok ending
    obtain ⟨_, spot, found⟩ := found_of_rename paths.proper (isName_copy paths.named).1 done
    have reaches := (tracks (isName_copy paths.named).1).reaches found
    obtain ⟨other, renamed⟩ := FileTree.renamed_of_rename healthy.files paths.proper reaches
      (isName_copy paths.named) paths.named (copy_ne_archive name)
      (fun same => bare (Option.some.inj (held.symm.trans same))) done
    obtain rfl : entry = other := Option.some.inj (held.symm.trans renamed.held)
    exact .inl ⟨rfl, ⟨renamed.sound, healthy.quiet⟩, reaches, renamed⟩
  · rcases cause with ⟨cause, rfl⟩ | ⟨error, refused⟩ | nul
    · rcases bind_cases ending with ⟨_, logged, _⟩ | ⟨_, _, logged, thrown⟩
      · cases Log.write_answers logged
      · obtain ⟨lost, rfl⟩ := throw_error thrown
        exact .inr ⟨(Logging.logged _ _ _ _ _).still healthy logged, _, _, _, _, lost⟩
    · rw [Path.ofString_toString (paths.proper.child paths.named.1)] at refused
      obtain ⟨answer, answered⟩ := exists_answers (tracks paths.named.1) paths.proper paths.named fits
        (by simp [empty])
      rw [refused] at answered
      cases answered
    · simp [clean, cleanCopy] at nul

/-- What a swap that succeeds has done: what was the archive is the backup, and what was the copy is
the archive. -/
structure Swapped (path : Path) (name : String) (directory : Files.Location) (before after : FileTree)
    (archive entry : Files.Entry) : Prop where
  backup : after.at? (directory ++ ["old-" ++ name]) = some archive
  places : ∀ {place : Files.Location},
    FileTree.isBelow place (directory ++ ["old-" ++ name]) = false →
    after.at? place = if place = directory ++ [name] then some entry
      else if place = directory ++ ["copy-" ++ name] then none else before.at? place
  tracks : ∀ {other : String}, IsSegment other → after.Tracks path other directory
  reaches : ∀ {file : Files.File}, entry = .file file → after.Reaches path directory
  start : after.start = before.start
  fits : FileTree.Fits path name

/-- A swap succeeds, or leaves the archive, or says that it has lost the archive's path. -/
theorem finalize_cases (paths : Named rebuilder path name)
    (reaches : before.files.Reaches path directory) (healthy : before.Healthy)
    {archive entry : Files.Entry} (heldArchive : before.files.at? (directory ++ [name]) = some archive)
    (bareArchive : archive ≠ .directory)
    (held : before.files.at? (directory ++ ["copy-" ++ name]) = some entry)
    (bare : entry ≠ .directory)
    (cleanCopy : FileTree.hasNul (path.child ("copy-" ++ name)).toString = false)
    (aside : (∃ file, archive = .file file) ∨
      ∀ aim, before.files.at? (directory ++ ["old-" ++ name]) ≠ some (.link aim))
    {outcome : Outcome Path} (run : rebuilder.finalize before = (outcome, after)) :
    (outcome = .ok rebuilder.paths.backup ∧ after.Healthy ∧
      Swapped path name directory before.files after.files archive entry) ∨
    ∃ failure, outcome = .error failure ∧ (failure.kind? = some .archiveSwap ∨
      after.files.at? (directory ++ [name]) = some archive) := by
  have named := paths.named
  have outsideArchive : FileTree.isBelow (directory ++ [name]) (directory ++ ["old-" ++ name]) = false :=
    FileTree.not_isBelow_sibling (backup_ne_archive name).symm []
  have outsideCopy : FileTree.isBelow (directory ++ ["copy-" ++ name]) (directory ++ ["old-" ++ name]) =
      false := FileTree.not_isBelow_sibling (copy_ne_backup name) []
  unfold Rebuilder.finalize at run
  rcases bind_cases run with ⟨failure, cleared, rfl⟩ | ⟨_, cleared, clearing, further⟩
  · rw [Rebuilder.discardBackup, paths.backup] at cleared
    obtain ⟨_, eroded⟩ := eroded_of_discard paths.proper (isName_backup named) (.inl reaches) healthy
      cleared
    exact .inr ⟨failure, rfl, .inr ((eroded.at?_of_outside outsideArchive).trans heldArchive)⟩
  rw [Rebuilder.discardBackup, paths.backup] at clearing
  obtain ⟨soundCleared, eroded⟩ := eroded_of_discard paths.proper (isName_backup named) (.inl reaches)
    healthy clearing
  have heldCleared := (eroded.at?_of_outside outsideArchive).trans heldArchive
  have trackCleared := reaches.narrowed eroded.narrows eroded.start paths.proper named.1
  rcases bind_cases further with ⟨failure, moved, rfl⟩ | ⟨_, moved, moving, last⟩
  · rcases moveAside_cases paths trackCleared soundCleared heldCleared bareArchive moved with
      ⟨answered, _⟩ | ⟨rfl, _⟩
    · cases answered
    · exact .inr ⟨failure, rfl, .inr heldCleared⟩
  rcases moveAside_cases paths trackCleared soundCleared heldCleared bareArchive moving with
    ⟨_, soundMoved, reachesCleared, clean, fits, renamed⟩ | ⟨_, _, failed⟩
  swap
  · cases failed
  have asideCleared : (∃ file, archive = .file file) ∨
      ∀ aim, cleared.files.at? (directory ++ ["old-" ++ name]) ≠ some (.link aim) := by
    rcases aside with file | plain
    · exact .inl file
    · refine .inr fun aim there => ?_
      rcases eroded.places (directory ++ ["old-" ++ name]) with same | ⟨_, gone⟩
      · exact plain aim (same.symm.trans there)
      · rw [gone] at there
        cases there
  have trackMoved : ∀ {other : String}, IsSegment other → moved.files.Tracks path other directory :=
    fun segment => reachesCleared.narrowed (narrows_of_renamed renamed asideCleared) renamed.start
      paths.proper segment
  have empty : moved.files.at? (directory ++ [name]) = none := by
    rw [renamed.places, if_neg (by simpa using (backup_ne_archive name).symm), if_pos rfl]
  have heldCopy : moved.files.at? (directory ++ ["copy-" ++ name]) = some entry := by
    rw [renamed.places, if_neg (by simp [copy_ne_backup name]),
      if_neg (by simp [copy_ne_archive name]), eroded.at?_of_outside outsideCopy, held]
  rcases bind_cases last with ⟨failure, swapped, rfl⟩ | ⟨_, swapped, swapping, ending⟩
  · rcases moveIn_cases paths trackMoved soundMoved fits empty heldCopy bare clean cleanCopy swapped with
      ⟨answered, _⟩ | ⟨_, _, _, _, _, lost⟩
    · cases answered
    · cases lost
      exact .inr ⟨_, rfl, .inl rfl⟩
  rcases moveIn_cases paths trackMoved soundMoved fits empty heldCopy bare clean cleanCopy swapping with
    ⟨_, soundSwapped, reachesMoved, put⟩ | ⟨_, _, _, _, _, lost⟩
  swap
  · cases lost
  obtain ⟨rfl, rfl⟩ := pure_ok ending
  refine .inl ⟨rfl, soundSwapped, ⟨?_, fun {place} outside => ?_, fun segment => ?_, ?_,
    put.start.trans (renamed.start.trans eroded.start), fits⟩⟩
  · rw [put.places, if_neg (by simp [backup_ne_archive name]), if_neg (by simp [(copy_ne_backup name).symm]),
      renamed.places, if_pos rfl]
  · have away : place ≠ directory ++ ["old-" ++ name] := by
      rintro rfl
      rw [FileTree.isBelow_refl] at outside
      cases outside
    rw [put.places, renamed.places, if_neg away, eroded.at?_of_outside outside]
    by_cases here : place = directory ++ [name]
    · rw [if_pos here, if_pos here]
    · rw [if_neg here, if_neg here, if_neg here]
  · exact reachesMoved.narrowed (narrows_of_renamed put (.inr (by simp [empty]))) put.start
      paths.proper segment
  · rintro file rfl
    exact reachesMoved.mono (put.carries empty) put.start

end Moving

end Rebuild
end ClassLoom
