import ClassLoom.Proofs.Rebuild.Copy
import ClassLoom.Proofs.Rebuild.Preparing
import ClassLoom.Proofs.Rebuild.Swapping
import ClassLoom.Proofs.Run.Staging

namespace ClassLoom
namespace Run

/-!
# A run that fails leaves the archive

Every step of a run over an archive can fail, and most steps write.  Where they write is decided by
the names of entries, by what earlier runs have left, and by links; none of that reaches the archive
before the swap.  The swap moves the archive as its first act, and any failure after that is reported
as one of the swap.

The archive is followed by its place, since the path to it may itself lead through the staging
directory of an earlier run, which is taken away.
-/

open Config (Value)
open Files (FileTree Path IsName IsSegment)
open Rebuild (Rebuilder)

variable {host : Host} {plan : Plan} {before after : Workspace}

/-! ## After the swap -/

section Replacing

variable {path : Path} {name : String} {directory : Files.Location} {rebuilder : Rebuilder}

/-- Nothing that prevents the staging directory from being deleted lets the run fail. -/
theorem cleanStaging_answers (paths : Rebuild.Named rebuilder path name)
    (tracks : before.files.Tracks path (name ++ ".tmp") directory)
    (fits : FileTree.Fits path (name ++ ".tmp"))
    (plain : ∀ target, before.files.at? (directory ++ [name ++ ".tmp"]) ≠ some (.link target))
    {outcome : Outcome Unit} (run : cleanStaging plan rebuilder before = (outcome, after)) :
    outcome = .ok () := by
  have named := Rebuild.isName_staging paths.named
  unfold cleanStaging at run
  obtain ⟨result, middle, cleaned, ending⟩ := Work.attempt_bind run
  cases result with
  | ok _ => exact (pure_ok ending).1
  | error failure =>
      rcases bind_cases cleaned with ⟨_, deleting, same⟩ | ⟨_, _, _, answered⟩
      swap
      · cases (pure_ok answered).1
      cases same
      rw [paths.staging] at deleting
      obtain ⟨_, files, deleted, _, ⟨_, answered⟩ | ⟨cause, rfl, failed⟩⟩ :=
        Rebuild.delete_cases (paths.proper.child named.1) deleting
      · cases answered
      have operation : Files.FileWork.IsFileOperation cause := by
        cases deleted with
        | unseen refused =>
            obtain ⟨answer, answered⟩ := Rebuild.exists_answers tracks paths.proper named fits plain
            rw [answered] at refused
            cases refused
        | unseenLink refused =>
            obtain ⟨answer, answered⟩ := Rebuild.isLink_answers tracks paths.proper named fits
            rw [answered] at refused
            cases refused
        | refused operation => exact operation
        | stopped operation _ => exact operation
      obtain ⟨operation, rfl⟩ := operation
      obtain rfl := Except.error.inj failed
      exact Log.write_answers ending

/-- Replacing the archive fails before the swap, or in it. -/
theorem archive_of_replaceArchive {staging : Staging} {artifact : Path}
    (paths : Rebuild.Named staging.rebuilder path name)
    (reaches : before.files.Reaches path directory) (healthy : before.Healthy) {file : Files.File}
    (held : before.files.at? (directory ++ [name]) = some (.file file))
    (fits : FileTree.Fits path (name ++ ".tmp"))
    (alive : before.files.at? (directory ++ [name ++ ".tmp"]) = some .directory) {failure : Failure}
    (run : replaceArchive plan artifact staging before = (.error failure, after)) :
    failure.kind? = some .archiveSwap ∨ after.files.at? (directory ++ [name]) = some (.file file) := by
  have named := paths.named
  have outside : FileTree.isBelow (directory ++ [name]) (directory ++ ["copy-" ++ name]) = false :=
    FileTree.not_isBelow_sibling (Rebuild.copy_ne_archive name).symm []
  have outsideStaging : FileTree.isBelow (directory ++ [name ++ ".tmp"])
      (directory ++ ["copy-" ++ name]) = false :=
    FileTree.not_isBelow_sibling (Rebuild.copy_ne_staging name).symm []
  rcases bind_cases run with ⟨_, written, same⟩ | ⟨_, copied, writing, further⟩
  · exact .inr ((Rebuild.kept_of_serialize paths.copy paths.proper (Rebuild.isName_copy named) reaches
      healthy written).2 outside held)
  obtain ⟨soundCopied, kept⟩ := Rebuild.kept_of_serialize paths.copy paths.proper
    (Rebuild.isName_copy named) reaches healthy writing
  obtain ⟨_, _, _, _, _, _, _, _, copy, _⟩ := Rebuild.copied_of_serialize paths.copy paths.proper
    (Rebuild.isName_copy named) reaches healthy writing
  obtain ⟨entry, heldCopy, bare⟩ := copy.held (Rebuild.isName_copy named)
  have swap := fun {outcome : Outcome Path} {last : Workspace} => @Rebuild.finalize_cases
    staging.rebuilder directory copied last path name paths copy.reaches soundCopied _ entry
    (kept outside held) (by simp) heldCopy bare copy.fresh.clean (.inl ⟨file, rfl⟩) outcome
  rcases bind_cases further with ⟨_, swapped, same⟩ | ⟨_, swapped, swapping, rest⟩
  · cases same
    rcases swap swapped with ⟨answered, _⟩ | ⟨_, same, lost⟩
    · cases answered
    · cases same
      exact lost
  rcases swap swapping with ⟨_, soundSwapped, put⟩ | ⟨_, failed, _⟩
  swap
  · cases failed
  -- From here on, everything answers.
  rcases bind_cases rest with ⟨_, logged, _⟩ | ⟨_, told, telling, reporting⟩
  · cases Log.write_answers logged
  obtain ⟨_, same⟩ := (Log.keeps_info _ _).still soundSwapped telling
  have reported : ∀ {report : Report} {before : Workspace},
      (logReport plan report >>= fun _ => return report : Work Report) before ≠
        (.error failure, after) := by
    intro report before run
    rcases bind_cases run with ⟨_, logged, _⟩ | ⟨_, _, _, answered⟩
    · cases Log.write_answers logged
    · cases (pure_ok answered).1
  split at reporting
  swap
  · exact absurd reporting reported
  rcases bind_cases reporting with ⟨_, cleaned, _⟩ | ⟨_, _, _, report⟩
  swap
  · exact absurd report reported
  have there : told.files.at? (directory ++ [name ++ ".tmp"]) = some .directory := by
    rw [same, put.places (FileTree.not_isBelow_sibling (Rebuild.backup_ne_staging name).symm []),
      if_neg (by simp [Rebuild.staging_ne_archive name]),
      if_neg (by simp [(Rebuild.copy_ne_staging name).symm]), kept outsideStaging alive]
  have tracks : told.files.Tracks path (name ++ ".tmp") directory :=
    same ▸ put.tracks (Rebuild.isName_staging named).1
  cases cleanStaging_answers paths tracks fits (by simp [there]) cleaned

end Replacing

/-! ## The whole run -/

theorem archive_of_rebuildJar (leaves : host.LeavesFiles) (healthy : before.Healthy) {artifact : Path}
    (proper : artifact.Proper) (nonempty : artifact.parts ≠ []) (named : IsName artifact.name)
    {directory : Files.Location} (reaches : before.files.Reaches artifact.parent directory)
    {file : Files.File} (held : before.files.at? (directory ++ [artifact.name]) = some (.file file))
    (direct : before.files.isLink? (Rebuild.WorkingPaths.of artifact).staging ≠ .ok true)
    {elements : List Value} {failure : Failure}
    (run : rebuildJar host plan artifact elements before = (.error failure, after)) :
    failure.kind? = some .archiveSwap ∨
      after.files.at? (directory ++ [artifact.name]) = some (.file file) := by
  have paths := Rebuild.named_of_new proper nonempty named plan.policy plan.logger
  have staging := Rebuild.isName_staging named
  have outside : FileTree.isBelow (directory ++ [artifact.name])
      (directory ++ [artifact.name ++ ".tmp"]) = false :=
    FileTree.not_isBelow_sibling (Rebuild.staging_ne_archive _).symm []
  rcases bind_cases run with ⟨_, failed, _⟩ | ⟨prepared, _, preparing, further⟩
  · exact .inr ((Rebuild.kept_of_prepare paths.staging paths.proper staging reaches healthy failed).2
      outside held)
  have ready := Rebuild.ready_of_prepare proper nonempty named reaches healthy direct preparing
  have stays : Keeps (Follows (Within (directory ++ [artifact.name ++ ".tmp"])))
      (stageInRun host plan artifact elements prepared) :=
    keeps_stageInRun leaves artifact elements ready.rooted
  have heldReady := ready.made.files outside held
  rcases bind_cases further with ⟨_, failed, _⟩ | ⟨staged, last, staging, replacing⟩
  · obtain ⟨_, within⟩ := stays.run failed ready.healthy
    exact .inr ((within.files outside).1 heldReady)
  obtain ⟨soundLast, within⟩ := stays.run staging ready.healthy
  obtain ⟨entries, remembered⟩ := remembers_of_stageInRun staging
  exact archive_of_replaceArchive (ready.paths.of_same (by rw [remembered]))
    (ready.made.reaches.mono within.carries within.start) soundLast ((within.files outside).1 heldReady)
    ready.made.fits (within.carries ready.made.alive rfl) replacing

/-- A directory with the staging directory of an earlier run in it. -/
def leftoverTree : FileTree :=
  let top : FileTree := ⟨[], [], 0, [], 1000000000000000000⟩
  (top.put ["w"] .directory).put ["w", "a.jar.tmp"] .directory

/-- The content of an archive of one class. -/
def smallArchive : Bytes :=
  Zip.encode [.ofContent "p/A.class" ⟨33, 0⟩ Zip.methodStored (0o100644 <<< 16) [1, 2, 3]] []

/-- An archive beside the staging directory of an earlier run. -/
def smallTree : FileTree :=
  { leftoverTree.put ["w", "a.jar"] (.file ⟨0, smallArchive, 1000000000000000000⟩) with nextId := 1 }

theorem sound_leftoverTree : leftoverTree.Sound := by
  have top : ((⟨[], [], 0, [], 1000000000000000000⟩ : FileTree).put ([] ++ ["w"]) .directory).Sound :=
    (FileTree.Sound.bare _).put_directory rfl (by decide)
  have above : (((⟨[], [], 0, [], 1000000000000000000⟩ : FileTree).put ([] ++ ["w"]) .directory).put
      (["w"] ++ ["a.jar.tmp"]) .directory).Sound :=
    top.put_directory rfl (by decide)
  exact above

theorem sound_smallTree : smallTree.Sound := by
  have named : IsName "a.jar" := by decide
  have parent : leftoverTree.at? ["w"] = some .directory := by decide
  exact sound_leftoverTree.put_newFile parent named (by decide) smallArchive 1000000000000000000

/-- A transformer that is interrupted. -/
def interruptedHost : Host := ⟨fun _ _ _ _ => throw .interrupted, fun _ => return ()⟩

theorem interruptedHost_leavesFiles : interruptedHost.LeavesFiles :=
  ⟨fun _ _ _ _ workspace => ⟨⟨workspace.files.clock, rfl⟩, id⟩,
    fun _ workspace => ⟨⟨workspace.files.clock, rfl⟩, id⟩⟩

/-- A plan that clears the staging directory before and after the run. -/
def cleanPlan : Plan :=
  ⟨some (.ready ⟨"T", "T", ⟨[], .nothing⟩⟩), .null, true, .clean, true, "classweaver"⟩

end Run
end ClassLoom
