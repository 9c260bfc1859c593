import ClassLoom.Proofs.Rebuild.Region
import ClassLoom.Rebuild.Swap

namespace ClassLoom
namespace Rebuild

/-!
# The paths beside an archive

The staging directory, the copy and the backup have the directory of the archive, and names that are
made of its name.  The four names differ, so what is deleted at one of them is neither the archive nor
anything else that a run counts on.

The path to the directory of the archive may itself lead through something that is deleted.  Then the
path leads nowhere afterwards, but never to another directory.
-/

open Files (FileTree FileWork Path IsName IsSegment)

/-! ## Names -/

section Names

variable {name : String}

theorem isName_append (named : IsName name) {ending : String} (slashless : '/' ∉ ending.toList)
    (long : 2 ≤ ending.length) : IsName (name ++ ending) := by
  refine IsName.of_two_lt_length ?_ ?_
  · rw [String.toList_append, List.mem_append]
    rintro (first | second)
    · exact named.1.1 first
    · exact slashless second
  · have some : name.length ≠ 0 := fun none => named.1.ne_empty (String.length_eq_zero_iff.1 none)
    rw [String.length_append]
    omega

theorem isName_prepend (named : IsName name) {beginning : String} (slashless : '/' ∉ beginning.toList)
    (long : 2 ≤ beginning.length) : IsName (beginning ++ name) := by
  refine IsName.of_two_lt_length ?_ ?_
  · rw [String.toList_append, List.mem_append]
    rintro (first | second)
    · exact slashless first
    · exact named.1.1 second
  · have some : name.length ≠ 0 := fun none => named.1.ne_empty (String.length_eq_zero_iff.1 none)
    rw [String.length_append]
    omega

theorem isName_staging (named : IsName name) : IsName (name ++ ".tmp") :=
  isName_append named (by decide) (by decide)

theorem isName_copy (named : IsName name) : IsName ("copy-" ++ name) :=
  isName_prepend named (by decide) (by decide)

theorem isName_backup (named : IsName name) : IsName ("old-" ++ name) :=
  isName_prepend named (by decide) (by decide)

theorem ne_of_length {first second : String} (different : first.length ≠ second.length) :
    first ≠ second := fun same => different (congrArg String.length same)

theorem staging_ne_archive (name : String) : name ++ ".tmp" ≠ name :=
  ne_of_length (by simp [String.length_append])

theorem copy_ne_archive (name : String) : "copy-" ++ name ≠ name :=
  ne_of_length (by simp [String.length_append])

theorem backup_ne_archive (name : String) : "old-" ++ name ≠ name :=
  ne_of_length (by simp [String.length_append])

theorem copy_ne_staging (name : String) : "copy-" ++ name ≠ name ++ ".tmp" := by
  have first : ("copy-" : String).length = 5 := by decide
  have second : (".tmp" : String).length = 4 := by decide
  exact ne_of_length (by rw [String.length_append, String.length_append]; omega)

theorem copy_ne_backup (name : String) : "copy-" ++ name ≠ "old-" ++ name := by
  have first : ("copy-" : String).length = 5 := by decide
  have second : ("old-" : String).length = 4 := by decide
  exact ne_of_length (by rw [String.length_append, String.length_append]; omega)

/-- The two names have the same length, but not the same letters. -/
theorem backup_ne_staging (name : String) : "old-" ++ name ≠ name ++ ".tmp" := by
  intro same
  have letters := congrArg (fun text : String => text.toList.count 'd') same
  simp only [String.toList_append, List.count_append] at letters
  have first : ("old-" : String).toList.count 'd' = 1 := by decide
  have second : (".tmp" : String).toList.count 'd' = 0 := by decide
  omega

/-- The names of what a rebuild works with in the directory of the archive, the archive first. -/
def workNames (name : String) : List String :=
  [name, name ++ ".tmp", "copy-" ++ name, "old-" ++ name]

theorem nodup_workNames (name : String) : (workNames name).Nodup := by
  simp [workNames, (staging_ne_archive name).symm, (copy_ne_archive name).symm,
    (backup_ne_archive name).symm, (copy_ne_staging name).symm, (backup_ne_staging name).symm,
    copy_ne_backup name]

end Names

/-! ## Paths -/

section Paths

variable {rebuilder : Rebuilder} {path : Path} {name : String}

/-- The paths of a rebuild, the archive first. -/
def WorkingPaths.all (paths : WorkingPaths) : List Path :=
  [paths.archive, paths.staging, paths.copy, paths.backup]

theorem WorkingPaths.all_of {artifact : Path} (nonempty : artifact.parts ≠ []) :
    (WorkingPaths.of artifact).all = (workNames artifact.name).map artifact.parent.child := by
  have archive : artifact.parent.child artifact.name = artifact := Path.parent_child_name nonempty
  simp only [all, of, workNames, List.map_cons, List.map_nil, archive]

/-- The four paths of a rebuild are in one directory, and no two of them are the same or spelled alike,
whatever the archive is called. -/
theorem WorkingPaths.nodup_of_named {artifact : Path} (named : artifact.name ≠ "") :
    (WorkingPaths.of artifact).all.Nodup ∧
      ((WorkingPaths.of artifact).all.map Path.toString).Nodup ∧
      ∀ path ∈ (WorkingPaths.of artifact).all, path.parent = artifact.parent := by
  have nonempty : artifact.parts ≠ [] := by
    intro bare
    exact named (by rw [Path.name, bare]; rfl)
  have spellings : ((WorkingPaths.of artifact).all.map Path.toString).Nodup := by
    rw [all_of nonempty, List.map_map]
    exact (nodup_workNames artifact.name).map (Path.toString_child_injective artifact.parent)
  refine ⟨spellings.of_map _, spellings, fun path member => ?_⟩
  rw [all_of nonempty] at member
  obtain ⟨name, _, rfl⟩ := List.mem_map.1 member
  exact Path.parent_child artifact.parent name

/-- An archive whose name begins as that of a backup and ends as that of a staging directory. -/
theorem WorkingPaths.nodup_of_backup_name :
    let artifact := Path.ofString "lib/old-.tmp"
    let paths := (WorkingPaths.of artifact).all
    artifact.name ≠ "" ∧
      paths.map Path.toString =
        ["lib/old-.tmp", "lib/old-.tmp.tmp", "lib/copy-old-.tmp", "lib/old-old-.tmp"] ∧
      paths.Nodup ∧ (paths.map Path.toString).Nodup ∧
      ∀ path ∈ paths, path.parent = artifact.parent := by
  have named : (Path.ofString "lib/old-.tmp").name ≠ "" := by decide
  exact ⟨named, by decide, nodup_of_named named⟩

/-- The paths of a rebuilder, written as names in one directory. -/
structure Named (rebuilder : Rebuilder) (path : Path) (name : String) : Prop where
  proper : path.Proper
  named : IsName name
  archive : rebuilder.paths.archive = path.child name
  staging : rebuilder.paths.staging = path.child (name ++ ".tmp")
  copy : rebuilder.paths.copy = path.child ("copy-" ++ name)
  backup : rebuilder.paths.backup = path.child ("old-" ++ name)

theorem named_of_new {artifact : Path} (proper : artifact.Proper) (nonempty : artifact.parts ≠ [])
    (named : IsName artifact.name) (policy : Config.StagingPolicy) (logger : String) :
    Named (Rebuilder.new artifact policy logger) artifact.parent artifact.name :=
  ⟨proper.parent, named, (Path.parent_child_name nonempty).symm, rfl, rfl, rfl⟩

theorem Named.of_same {other : Rebuilder} (paths : Named rebuilder path name)
    (same : other.paths = rebuilder.paths) : Named other path name :=
  ⟨paths.proper, paths.named, same ▸ paths.archive, same ▸ paths.staging, same ▸ paths.copy,
    same ▸ paths.backup⟩

end Paths

/-! ## Looking at the end of a path -/

section Looking

variable {tree : FileTree} {path : Path} {name : String} {directory : Files.Location}

/-- Whether something is at the end of a path can be answered, unless a link is there. -/
theorem exists_answers (tracks : tree.Tracks path name directory)
    (proper : path.Proper) (named : IsName name) (fits : FileTree.Fits path name)
    (plain : ∀ target, tree.at? (directory ++ [name]) ≠ some (.link target)) :
    ∃ answer, tree.exists? (path.child name) = .ok answer := by
  rcases tracks with reaches | lost
  · cases held : tree.at? (directory ++ [name]) with
    | none => exact ⟨false, (reaches.unfound true proper named fits held).test⟩
    | some entry =>
        have bare : FileTree.Entry.isLink entry = false := by
          cases entry with
          | link target => exact absurd held (plain target)
          | file file => rfl
          | directory => rfl
        have found := reaches.find_of_plain true proper named fits held bare
        cases nul : FileTree.hasNul (path.child name).toString with
        | true => exact ⟨false, by rw [FileTree.exists?, FileTree.test, FileTree.stat, nul]; rfl⟩
        | false => exact ⟨true, FileTree.exists_of_stat (FileTree.stat_eq_ok_iff.2 ⟨nul, found⟩)⟩
  · have absence := fun follow => (lost follow).imp fun _ => And.imp_left fun held => held fits
    exact ⟨false, FileTree.Unfound.test (.inr (absence true))⟩

/-- Whether a link is at the end of a path can be answered. -/
theorem isLink_answers (tracks : tree.Tracks path name directory)
    (proper : path.Proper) (named : IsName name) (fits : FileTree.Fits path name) :
    ∃ answer, tree.isLink? (path.child name) = .ok answer := by
  rcases tracks with reaches | lost
  · cases held : tree.at? (directory ++ [name]) with
    | none => exact ⟨false, (reaches.unfound false proper named fits held).isLink⟩
    | some entry =>
        have found := reaches.find_false proper named fits
        rw [held] at found
        cases nul : FileTree.hasNul (path.child name).toString with
        | true => exact ⟨false, by rw [FileTree.isLink?, FileTree.stat, nul]; rfl⟩
        | false => exact ⟨_, FileTree.isLink_of_stat (FileTree.stat_eq_ok_iff.2 ⟨nul, found⟩)⟩
  · have absence := fun follow => (lost follow).imp fun _ => And.imp_left fun held => held fits
    exact ⟨false, FileTree.Unfound.isLink (.inr (absence false))⟩

/-- Where no link is seen, there is none. -/
theorem plain_of_isLink (reaches : tree.Reaches path directory) (proper : path.Proper)
    (named : IsName name) (fits : FileTree.Fits path name)
    (clean : FileTree.hasNul (path.child name).toString = false)
    (direct : tree.isLink? (path.child name) ≠ .ok true) (target : String) :
    tree.at? (directory ++ [name]) ≠ some (.link target) := by
  intro held
  have found := reaches.find_false proper named fits
  rw [held] at found
  exact direct (FileTree.isLink_of_stat (FileTree.stat_eq_ok_iff.2 ⟨clean, found⟩))

end Looking

/-! ## Deleting beside the archive -/

section Deleting

variable {path : Path} {cause : String → FileFailure → ArchiveCause} {rebuilder : Rebuilder}
  {before after : Workspace} {outcome : Outcome Unit}

theorem delete_cases (proper : path.Proper)
    (run : Rebuilder.delete path cause before = (outcome, after)) :
    ∃ result files, FileWork.Deleted before.files path result files ∧
      after = { before with files } ∧
      (result = .ok () ∧ outcome = .ok () ∨
        ∃ failure, result = .error failure ∧
          outcome = .error ((rebuildFailure (cause path.toString) failure).getD failure)) := by
  unfold Rebuilder.delete at run
  rcases Work.recast_cases run with ⟨_, stage, rfl⟩ | ⟨failure, stage, rfl⟩
  · obtain ⟨files, deleted, rfl⟩ := Work.onFiles_cases stage
    exact ⟨_, files, FileWork.deleted_of_deleteTree proper deleted, rfl, .inl ⟨rfl, rfl⟩⟩
  · obtain ⟨files, deleted, rfl⟩ := Work.onFiles_cases stage
    exact ⟨_, files, FileWork.deleted_of_deleteTree proper deleted, rfl, .inr ⟨failure, rfl, rfl⟩⟩

section Named

variable {name notice : String} {directory : Files.Location}

/-- A deletion takes nothing but what is at or below the end of its path, whatever it answers. -/
theorem eroded_of_delete (proper : path.Proper) (named : IsName name)
    (tracks : before.files.Tracks path name directory) (healthy : before.Healthy)
    (run : Rebuilder.delete (path.child name) cause before = (outcome, after)) :
    after.Healthy ∧ FileTree.Eroded before.files after.files (directory ++ [name]) := by
  obtain ⟨result, files, deleted, rfl, _⟩ := delete_cases (proper.child named.1) run
  have eroded := deleted.eroded proper named tracks
  exact ⟨⟨eroded.sound healthy.files, healthy.quiet⟩, eroded⟩

theorem swept_of_delete (proper : path.Proper) (named : IsName name)
    (reaches : before.files.Reaches path directory) (healthy : before.Healthy)
    (run : Rebuilder.delete (path.child name) cause before = (.ok (), after)) :
    (after.files = before.files ∧ before.files.exists? (path.child name) = .ok false) ∨
      ∃ middle, middle.Reaches path directory ∧
        FileWork.Swept before.files middle after.files (directory ++ [name]) := by
  obtain ⟨result, files, deleted, rfl, ⟨rfl, _⟩ | ⟨_, _, failed⟩⟩ :=
    delete_cases (proper.child named.1) run
  · rcases deleted.swept healthy.files proper named reaches with ⟨same, absent, _⟩ | swept
    · exact .inl ⟨same, absent⟩
    · exact .inr swept
  · cases failed

theorem eroded_of_discard (proper : path.Proper) (named : IsName name)
    (tracks : before.files.Tracks path name directory)
    (healthy : before.Healthy)
    (run : rebuilder.discard (path.child name) notice cause before = (outcome, after)) :
    after.Healthy ∧ FileTree.Eroded before.files after.files (directory ++ [name]) := by
  unfold Rebuilder.discard at run
  rcases bind_cases run with ⟨failure, asked, _⟩ | ⟨present, middle, asked, further⟩
  · obtain ⟨rfl, _⟩ := Work.ask_cases asked
    exact ⟨healthy, .refl _ _⟩
  obtain ⟨rfl, _⟩ := Work.ask_cases asked
  split at further
  · rcases bind_cases further with ⟨failure, logged, _⟩ | ⟨_, later, logged, deleting⟩
    · obtain ⟨sound, same⟩ := (Log.keeps_debug _ _).still healthy logged
      exact ⟨sound, same ▸ .refl _ _⟩
    · obtain ⟨sound, same⟩ := (Log.keeps_debug _ _).still healthy logged
      have eroded := eroded_of_delete proper named (same ▸ tracks) sound deleting
      exact ⟨eroded.1, same ▸ eroded.2⟩
  · obtain ⟨_, rfl⟩ := pure_ok further
    exact ⟨healthy, .refl _ _⟩

/-- What is discarded is gone, and was there to be found until only it was left. -/
theorem swept_of_discard (proper : path.Proper) (named : IsName name)
    (reaches : before.files.Reaches path directory)
    (healthy : before.Healthy)
    (run : rebuilder.discard (path.child name) notice cause before = (.ok (), after)) :
    (after.files = before.files ∧ before.files.exists? (path.child name) = .ok false) ∨
      ∃ middle, middle.Reaches path directory ∧
        FileWork.Swept before.files middle after.files (directory ++ [name]) := by
  unfold Rebuilder.discard at run
  obtain ⟨present, middle, asked, further⟩ := bind_ok run
  obtain ⟨rfl, answered⟩ := Work.ask_cases asked
  split at further
  · obtain ⟨_, later, logged, deleting⟩ := bind_ok further
    obtain ⟨sound, same⟩ := (Log.keeps_debug _ _).still healthy logged
    have swept := swept_of_delete proper named (same ▸ reaches) sound deleting
    rw [same] at swept
    exact swept
  next absent =>
    obtain ⟨_, rfl⟩ := pure_ok further
    split at answered
    next value seen =>
      obtain rfl := Except.ok.inj answered
      exact .inl ⟨rfl, by simpa [absent] using seen⟩
    next => cases answered

end Named

end Deleting

end Rebuild
end ClassLoom
