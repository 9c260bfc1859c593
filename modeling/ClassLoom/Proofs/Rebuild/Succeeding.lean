import ClassLoom.Proofs.Answering
import ClassLoom.Proofs.Files.Granting
import ClassLoom.Proofs.Files.Linkless
import ClassLoom.Proofs.Rebuild.Preparing

namespace ClassLoom
namespace Rebuild

/-!
# Rebuilds that are not prevented

A rebuild is prevented by what is beside the archive: something that is no directory at the path of the
staging directory, a link where leftovers are to be deleted, or a path to the archive that leads through
what is deleted.  Where there is none of these, leftovers are discarded, and the staging directory is
prepared.
-/

open Files (FileTree FileWork Path IsName IsSegment)
open Files.FileTree (Askable)

variable {rebuilder : Rebuilder} {path : Path} {name : String} {directory region : Files.Location}
  {before after : Workspace} {cause : String → FileFailure → ArchiveCause} {notice : String}

/-! ## Paths -/

/-- Where the longest of the four paths can be asked for, all of them can. -/
theorem askable_beside (askable : Askable (path.child ("copy-" ++ name))) {other : String}
    (among : other ∈ [name, name ++ ".tmp", "old-" ++ name]) : Askable (path.child other) := by
  have clean := askable.clean
  simp only [FileTree.toString_child, FileTree.hasNul_append, Bool.or_eq_false_iff] at clean
  have size := askable.size
  simp only [FileTree.toString_child, String.utf8ByteSize_append] at size
  have short : ("copy-" ++ name).utf8ByteSize ≤ 255 := askable.short _ (by simp [Path.child])
  rw [String.utf8ByteSize_append] at short
  have width : "copy-".utf8ByteSize = 5 ∧ ".tmp".utf8ByteSize = 4 ∧ "old-".utf8ByteSize = 4 := by decide
  have plain : FileTree.hasNul other = false ∧ other.utf8ByteSize ≤ 5 + name.utf8ByteSize := by
    simp only [List.mem_cons, List.not_mem_nil, or_false] at among
    rcases among with rfl | rfl | rfl
    · exact ⟨clean.2.2, by omega⟩
    · exact ⟨by rw [FileTree.hasNul_append, clean.2.2]; decide, by rw [String.utf8ByteSize_append]; omega⟩
    · exact ⟨by rw [FileTree.hasNul_append, clean.2.2]; decide, by rw [String.utf8ByteSize_append]; omega⟩
  refine ⟨?_, ?_, fun part among => ?_⟩
  · rw [FileTree.toString_child, FileTree.hasNul_append, clean.1, plain.1]
    rfl
  · rw [FileTree.toString_child, String.utf8ByteSize_append]
    omega
  · rcases List.mem_append.1 among with above | last
    · exact askable.short part (List.mem_append_left _ above)
    · rw [List.mem_singleton.1 last]
      omega

/-- A directory is not in what it holds. -/
theorem not_isBelow_self (directory : Files.Location) (name : String) :
    FileTree.isBelow directory (directory ++ [name]) = false := by
  by_contra below
  obtain ⟨rest, same⟩ := FileTree.isBelow_iff.1 (by simpa using below)
  simpa using congrArg List.length same

/-! ## Deleting -/

section Deleting

theorem delete_run {entry : Files.Entry} (healthy : before.Healthy)
    (reaches : before.files.Reaches path directory) (proper : path.Proper) (named : IsName name)
    (askable : Askable (path.child name))
    (apart : entry = .directory → (before.files.drop (directory ++ [name])).Reaches path directory)
    (held : before.files.at? (directory ++ [name]) = some entry)
    (plain : FileTree.Entry.isLink entry = false) :
    ∃ after, Rebuilder.delete (path.child name) cause before = (.ok (), after) ∧
      after.files.at? (directory ++ [name]) = none := by
  obtain ⟨files, deletes, gone⟩ := FileWork.deleteTree_run reaches healthy.files apart proper named askable
    held plain
  exact ⟨{ before with files }, by rw [Rebuilder.delete, Work.recast, Work.onFiles_of_run deletes], gone⟩

theorem discard_of_absent (absent : before.files.exists? path = .ok false) :
    rebuilder.discard path notice cause before = (.ok (), before) := by
  have asked : Work.ask (·.exists? path) before = (.ok false, before) := Work.ask_of_ok absent
  rw [Rebuilder.discard, bind_of_ok asked]
  rfl

/-- Whatever was left, unless it is a link, is discarded. -/
theorem discard_run (healthy : before.Healthy) (reaches : before.files.Reaches path directory)
    (proper : path.Proper) (named : IsName name) (askable : Askable (path.child name))
    (plain : ∀ target, before.files.at? (directory ++ [name]) ≠ some (.link target))
    (apart : before.files.at? (directory ++ [name]) = some .directory →
      (before.files.drop (directory ++ [name])).Reaches path directory) :
    ∃ after, rebuilder.discard (path.child name) notice cause before = (.ok (), after) ∧
      after.Healthy ∧ after.files.at? (directory ++ [name]) = none ∧
      after.files.Reaches path directory ∧
      FileTree.Eroded before.files after.files (directory ++ [name]) := by
  cases held : before.files.at? (directory ++ [name]) with
  | none =>
      have unseen := reaches.exists_absent proper named askable.fits held
      exact ⟨before, discard_of_absent unseen, healthy, held, reaches, .refl _ _⟩
  | some entry =>
      have bare : FileTree.Entry.isLink entry = false := by
        cases entry with
        | link target => exact absurd held (plain target)
        | file file => rfl
        | directory => rfl
      have asked : Work.ask (·.exists? (path.child name)) before = (.ok true, before) :=
        Work.ask_of_ok (FileTree.exists_of_stat (reaches.stat_child true proper named askable held bare))
      obtain ⟨told, telling, logged⟩ := Log.logged_write healthy.quiet rebuilder.logger .debug
        (notice ++ (path.child name).toString) [] none
      have healthyTold : told.Healthy := ⟨logged.files ▸ healthy.files, logged.quiet⟩
      rw [held] at apart
      rw [← logged.files] at held reaches apart
      obtain ⟨after, deletes, gone⟩ : ∃ after, Rebuilder.delete (path.child name) cause told =
          (.ok (), after) ∧ after.files.at? (directory ++ [name]) = none :=
        delete_run healthyTold reaches proper named askable
          (fun same => apart (congrArg some same)) held bare
      obtain ⟨healthyAfter, eroded⟩ := eroded_of_delete proper named (.inl reaches) healthyTold deletes
      refine ⟨after, ?_, healthyAfter, gone, ?_, logged.files ▸ eroded⟩
      · rw [Rebuilder.discard, bind_of_ok asked, if_pos rfl, Log.debug, bind_of_ok telling]
        exact deletes
      · cases entry with
        | link target => cases bare
        | file file => exact eroded.reaches_of_file healthyTold.files held reaches
        | directory => exact eroded.reaches (apart rfl)

end Deleting

/-! ## Preparing -/

section Preparing

/-- Where there is no staging directory there is nothing to do. -/
theorem clearStaging_of_absent (paths : Named rebuilder path name)
    (reaches : before.files.Reaches path directory) (askable : Askable (path.child (name ++ ".tmp")))
    (absent : before.files.at? (directory ++ [name ++ ".tmp"]) = none) :
    rebuilder.clearStaging before = (.ok (), before) := by
  have asked : Work.ask (·.exists? (path.child (name ++ ".tmp"))) before = (.ok false, before) :=
    Work.ask_of_ok (reaches.exists_absent paths.proper (isName_staging paths.named) askable.fits absent)
  rw [Rebuilder.clearStaging]
  simp only [paths.staging]
  rw [bind_of_ok asked]
  rfl

/-- The staging directory of an earlier run is taken away, or stays. -/
theorem clearStaging_run (paths : Named rebuilder path name) (healthy : before.Healthy)
    (reaches : before.files.Reaches path directory) (askable : Askable (path.child (name ++ ".tmp")))
    (apart : (before.files.drop (directory ++ [name ++ ".tmp"])).Reaches path directory)
    (free : before.files.at? (directory ++ [name ++ ".tmp"]) = none ∨
      before.files.at? (directory ++ [name ++ ".tmp"]) = some .directory) :
    ∃ after, rebuilder.clearStaging before = (.ok (), after) ∧ after.Healthy ∧
      FileTree.Eroded before.files after.files (directory ++ [name ++ ".tmp"]) := by
  have named := isName_staging paths.named
  suffices run : ∃ after, rebuilder.clearStaging before = (.ok (), after) by
    obtain ⟨after, run⟩ := run
    obtain ⟨healthyAfter, eroded⟩ :=
      eroded_of_clearStaging paths.staging paths.proper named (.inl reaches) healthy run
    exact ⟨after, run, healthyAfter, eroded⟩
  rcases free with absent | held
  · exact ⟨before, clearStaging_of_absent paths reaches askable absent⟩
  rw [Rebuilder.clearStaging]
  simp only [paths.staging]
  have asked : Work.ask (·.exists? (path.child (name ++ ".tmp"))) before = (.ok true, before) :=
    Work.ask_of_ok (FileTree.exists_of_stat (reaches.stat_child true paths.proper named askable held rfl))
  rw [bind_of_ok asked, if_pos rfl]
  cases rebuilder.policy with
  | reuse =>
      obtain ⟨told, telling, _⟩ := Log.logged_write healthy.quiet rebuilder.logger .warning
        ("Staging directory already exists, potential old content present: " ++
          (path.child (name ++ ".tmp")).toString) [] none
      exact ⟨told, telling⟩
  | clean =>
      obtain ⟨told, telling, logged⟩ := Log.logged_write healthy.quiet rebuilder.logger .warning
        ("Removing leftover staging directory: " ++ (path.child (name ++ ".tmp")).toString) [] none
      have healthyTold : told.Healthy := ⟨logged.files ▸ healthy.files, logged.quiet⟩
      rw [← logged.files] at reaches apart held
      obtain ⟨after, deletes, _⟩ : ∃ after, Rebuilder.delete (path.child (name ++ ".tmp"))
          .cannotDeleteStaging told = (.ok (), after) ∧ _ :=
        delete_run healthyTold reaches paths.proper named askable (fun _ => apart) held rfl
      exact ⟨after, (bind_of_ok telling).trans deletes⟩

/-- The staging directory is made, unless it is there. -/
theorem makeStaging_run (paths : Named rebuilder path name) (healthy : before.Healthy)
    (reaches : before.files.Reaches path directory) (askable : Askable (path.child (name ++ ".tmp")))
    (alive : before.files.at? directory = some .directory)
    (free : before.files.at? (directory ++ [name ++ ".tmp"]) = none ∨
      before.files.at? (directory ++ [name ++ ".tmp"]) = some .directory) :
    ∃ files, rebuilder.makeStaging before = (.ok (), { before with files }) ∧
      FileTree.Paved before.files files directory [name ++ ".tmp"] := by
  have named := isName_staging paths.named
  have single : under path [name ++ ".tmp"] = path.child (name ++ ".tmp") := rfl
  obtain ⟨files, makes, paved⟩ := FileWork.createDirectory_run reaches healthy.files alive paths.proper
    (List.cons_ne_nil (name ++ ".tmp") []) (by simpa using named) askable fun front start => by
      rcases List.prefix_cons_iff.1 start with rfl | ⟨rest, rfl, further⟩
      · exact .inr (by rwa [List.append_nil])
      · obtain rfl := List.prefix_nil.1 further
        exact free
  rw [single] at makes
  have creates : ∀ cause, Work.recast (rebuildFailure cause) (Work.onFiles
      (FileWork.createDirectory (path.child (name ++ ".tmp")).toString)) before =
        (.ok (), { before with files }) := by
    intro cause
    rw [Work.recast, Work.onFiles_of_run makes]
  refine ⟨files, ?_, paved⟩
  rw [Rebuilder.makeStaging]
  simp only [paths.staging]
  rcases free with absent | held
  · have asked : Work.ask (·.exists? (path.child (name ++ ".tmp"))) before = (.ok false, before) :=
      Work.ask_of_ok (reaches.exists_absent paths.proper named askable.fits absent)
    rw [bind_of_ok asked]
    exact creates _
  · have seen := reaches.stat_child true paths.proper named askable held rfl
    have asked : Work.ask (·.exists? (path.child (name ++ ".tmp"))) before = (.ok true, before) :=
      Work.ask_of_ok (FileTree.exists_of_stat seen)
    have kind : Work.ask (·.isDirectory? (path.child (name ++ ".tmp"))) before = (.ok true, before) :=
      Work.ask_of_ok (FileTree.test_of_stat seen)
    rw [bind_of_ok asked, if_pos rfl, bind_of_ok kind]
    exact creates _

/-- Once leftovers have been taken away, the staging directory is made where its path leads. -/
theorem prepare_of_clearStaging {cleared : Workspace} (paths : Named rebuilder path name)
    (clears : rebuilder.clearStaging before = (.ok (), cleared)) (healthy : cleared.Healthy)
    (linkless : cleared.files.Linkless) (reaches : cleared.files.Reaches path directory)
    (alive : cleared.files.at? directory = some .directory)
    (askable : Askable (path.child (name ++ ".tmp")))
    (free : cleared.files.at? (directory ++ [name ++ ".tmp"]) = none ∨
      cleared.files.at? (directory ++ [name ++ ".tmp"]) = some .directory) :
    ∃ files, rebuilder.prepare before = (.ok { rebuilder with
        root := some (FileTree.pathOf (directory ++ [name ++ ".tmp"])) }, { cleared with files }) ∧
      FileTree.Paved cleared.files files directory [name ++ ".tmp"] := by
  obtain ⟨files, makes, paved⟩ := makeStaging_run paths healthy reaches askable alive free
  have clear : files.Linkless := fun place target held =>
    linkless place target (paved.grown.at?_of_not_directory held nofun)
  have settles := (reaches.mono paved.grown.carries paved.grown.start).settles (isName_staging paths.named)
    (clear _)
  have resolves : files.resolve? rebuilder.paths.staging = some (directory ++ [name ++ ".tmp"]) := by
    rw [paths.staging]
    exact clear.resolve_eq settles
  refine ⟨files, ?_, paved⟩
  rw [Rebuilder.prepare, bind_of_ok clears, bind_of_ok makes, Work.files_bind]
  simp only [resolves]
  rfl

/-- The staging directory is prepared, with nothing in it that was not there. -/
theorem prepare_run (paths : Named rebuilder path name) (healthy : before.Healthy)
    (linkless : before.files.Linkless) (reaches : before.files.Reaches path directory)
    (alive : before.files.at? directory = some .directory)
    (askable : Askable (path.child (name ++ ".tmp")))
    (apart : (before.files.drop (directory ++ [name ++ ".tmp"])).Reaches path directory)
    (free : before.files.at? (directory ++ [name ++ ".tmp"]) = none ∨
      before.files.at? (directory ++ [name ++ ".tmp"]) = some .directory) :
    ∃ prepared after, rebuilder.prepare before = (.ok prepared, after) ∧
      ∀ place, place ≠ directory ++ [name ++ ".tmp"] → after.files.at? place = before.files.at? place ∨
        FileTree.isBelow place (directory ++ [name ++ ".tmp"]) = true ∧ after.files.at? place = none := by
  obtain ⟨cleared, clears, healthyCleared, eroded⟩ :=
    clearStaging_run paths healthy reaches askable apart free
  have outside := not_isBelow_self directory (name ++ ".tmp")
  have freeCleared : cleared.files.at? (directory ++ [name ++ ".tmp"]) = none ∨
      cleared.files.at? (directory ++ [name ++ ".tmp"]) = some .directory := by
    rcases eroded.places (directory ++ [name ++ ".tmp"]) with same | ⟨_, gone⟩
    · rwa [same]
    · exact .inl gone
  have clear : cleared.files.Linkless := by
    intro place target held
    rcases eroded.places place with same | ⟨_, gone⟩
    · exact linkless place target (same ▸ held)
    · rw [gone] at held
      cases held
  obtain ⟨files, prepares, paved⟩ := prepare_of_clearStaging paths clears healthyCleared clear
    (eroded.reaches apart) ((eroded.at?_of_outside outside).trans alive) askable freeCleared
  refine ⟨_, _, prepares, fun place other => ?_⟩
  rcases paved.places place with same | ⟨absent, _, front, start, there⟩
  · simp only [same]
    exact eroded.places place
  · -- Only the directory of the archive, which is there, and the staging directory are on the way.
    rcases List.prefix_cons_iff.1 start with rfl | ⟨rest, rfl, further⟩
    · rw [there, List.append_nil, eroded.at?_of_outside outside, alive] at absent
      cases absent
    · obtain rfl := List.prefix_nil.1 further
      exact absurd there other

end Preparing

end Rebuild
end ClassLoom
