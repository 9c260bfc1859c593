import ClassLoom.Proofs.Files.Linkless
import ClassLoom.Proofs.Rebuild.Copy
import ClassLoom.Proofs.Rebuild.Preparing
import ClassLoom.Proofs.Rebuild.Swapping

namespace ClassLoom

/-!
# Rebuilding stays beside the archive

Where there are no links, the paths of a rebuilder stand for four places in one directory, for as long
as it works.  So all that it takes away and all that it writes is at or below these places.  What it
may make elsewhere are directories: those on the way of an entry are made as the entry spells them, and
an entry may leave the staging directory on its way and come back.
-/

open Files (FileTree FileWork Path IsName IsSegment)

variable {areas : List Files.Location}

/-- A place that is neither at nor below any of some others. -/
def Outside (areas : List Files.Location) (place : Files.Location) : Prop :=
  ∀ area ∈ areas, FileTree.isBelow place area = false

/-- Outside of some areas nothing is different, but that there may be more directories. -/
structure Confined (areas : List Files.Location) (before after : FileTree) : Prop where
  places : ∀ {place : Files.Location}, Outside areas place → after.at? place = before.at? place ∨
    before.at? place = none ∧ after.at? place = some .directory
  linkless : before.Linkless → after.Linkless
  start : after.start = before.start

namespace Confined

instance : Frame (Confined areas) where
  refl _ := ⟨fun _ => .inl rfl, fun linkless => linkless, rfl⟩
  clock _ _ := ⟨fun _ => .inl rfl, fun linkless => linkless, rfl⟩
  trans before middle after first second := by
    refine ⟨fun {place} outside => ?_, fun linkless => second.linkless (first.linkless linkless),
      second.start.trans first.start⟩
    rcases second.places outside with same | ⟨absent, made⟩
    · rw [same]
      exact first.places outside
    · rcases first.places outside with same | ⟨_, madeBefore⟩
      · exact .inr ⟨same.symm.trans absent, made⟩
      · rw [absent] at madeBefore
        cases madeBefore

variable {before after : FileTree} {place : Files.Location} {entry : Files.Entry}

theorem at?_of_some (confined : Confined areas before after) (outside : Outside areas place)
    (held : before.at? place = some entry) : after.at? place = some entry := by
  rcases confined.places outside with same | ⟨absent, _⟩
  · exact same.trans held
  · rw [absent] at held
    cases held

theorem mono {wider : List Files.Location} (confined : Confined areas before after)
    (subset : areas ⊆ wider) : Confined wider before after :=
  ⟨fun outside => confined.places fun area member => outside area (subset member),
    confined.linkless, confined.start⟩

theorem of_grown (grown : FileTree.Grown before after) : Confined areas before after :=
  ⟨fun _ => grown.places _, fun linkless _ _ held => linkless _ _ (grown.at?_of_not_directory held (by simp)),
    grown.start⟩

theorem of_eroded {top : Files.Location} (eroded : FileTree.Eroded before after top)
    (member : top ∈ areas) : Confined areas before after := by
  refine ⟨fun outside => .inl (eroded.at?_of_outside (outside top member)), ?_, eroded.start⟩
  intro linkless other target held
  rcases eroded.places other with same | ⟨_, gone⟩
  · exact linkless _ _ (same.symm.trans held)
  · rw [gone] at held
    cases held

theorem of_written {content : Bytes} (written : FileTree.Written before after place content)
    (member : place ∈ areas) : Confined areas before after := by
  refine ⟨fun {other} outside => .inl (written.at?_of_ne ?_), ?_, written.start⟩
  · rintro rfl
    exact absurd (outside other member) (by simp [FileTree.isBelow_refl])
  · exact fun linkless _ _ held => linkless _ _ ((written.at?_iff rfl).2 held)

theorem of_within {region : Files.Location} (within : Within region before after)
    (member : region ∈ areas) : Confined areas before after := by
  refine ⟨fun {other} outside => ?_, fun linkless _ _ held => linkless _ _ (within.links held), within.start⟩
  have files := fun file : Files.File =>
    @Within.files region before after within other file (outside region member)
  cases held : before.at? other with
  | some entry =>
      cases entry with
      | file file => exact .inl ((files file).1 held)
      | directory => exact .inl (within.carries held rfl)
      | link target => exact .inl (within.carries held rfl)
  | none =>
      cases now : after.at? other with
      | none => exact .inl rfl
      | some entry =>
          cases entry with
          | directory => exact .inr ⟨rfl, rfl⟩
          | file file =>
              rw [(files file).2 now] at held
              cases held
          | link target =>
              rw [within.links now] at held
              cases held

theorem of_renamed {source target : Files.Location} {file : Files.File}
    (renamed : FileTree.Renamed before after source target (.file file)) (sourceMember : source ∈ areas)
    (targetMember : target ∈ areas) : Confined areas before after := by
  have apart : ∀ {other area : Files.Location}, Outside areas other → area ∈ areas → other ≠ area := by
    rintro other _ outside member rfl
    exact absurd (outside other member) (by simp [FileTree.isBelow_refl])
  refine ⟨fun outside => .inl ?_, fun linkless place aim held => ?_, renamed.start⟩
  · rw [renamed.places, if_neg (apart outside targetMember), if_neg (apart outside sourceMember)]
  · rw [renamed.places] at held
    split at held
    · cases held
    · split at held
      · cases held
      · exact linkless _ _ held

end Confined

/-! ## Work that is confined -/

/-- What happens between two workspaces is confined, if there are no links, and relative paths start
where they did. -/
def Confines (origin : FileTree) (areas : List Files.Location) (before after : Workspace) : Prop :=
  before.files.Linkless → before.files.start = origin.start → Follows (Confined areas) before after

section Confines

variable {origin : FileTree} {α : Type}

instance : IsPreorder Workspace (Confines origin areas) where
  refl workspace _ _ := refl_of (Follows (Confined areas)) workspace
  trans _ _ _ first second linkless start healthy := by
    obtain ⟨healthyMiddle, one⟩ := first linkless start healthy
    obtain ⟨healthyLast, two⟩ := second (one.linkless linkless) (one.start.trans start) healthyMiddle
    exact ⟨healthyLast, trans_of (Confined areas) one two⟩

theorem Keeps.confines {work : Work α} (kept : Keeps (Follows (Confined areas)) work) :
    Keeps (Confines origin areas) work := fun workspace _ _ => kept workspace

instance : Bookkeeping (Confines origin areas) where
  same files loggers _ _ _ := follows_of_same files loggers
  logged name level message context error :=
    (Logging.logged name level message context error).confines

theorem Keeps.confines_of_within {region : Files.Location} {work : Work α}
    (kept : Keeps (Follows (Within region)) work) (member : region ∈ areas) :
    Keeps (Confines origin areas) work := fun workspace _ _ healthy =>
  (kept workspace healthy).imp_right fun within => .of_within within member

end Confines

namespace Rebuild

section Beside

variable {rebuilder : Rebuilder} {path : Path} {name : String} {directory : Files.Location}
  {origin : FileTree}

/-- Work that takes away only what is at or below the end of a path is confined to that place. -/
theorem keeps_of_eroded {α : Type} {work : Work α} (linkless : origin.Linkless)
    (reaches : origin.Reaches path directory) (proper : path.Proper) (named : IsName name)
    (member : directory ++ [name] ∈ areas)
    (erodes : ∀ {before after : Workspace} {outcome : Outcome α},
      before.files.Tracks path name directory → before.Healthy → work before = (outcome, after) →
        after.Healthy ∧ FileTree.Eroded before.files after.files (directory ++ [name])) :
    Keeps (Confines origin areas) work := by
  refine keeps_of_run fun run clear start healthy => ?_
  obtain ⟨healthyAfter, eroded⟩ :=
    erodes (linkless.tracks reaches clear start proper named.1) healthy run
  exact ⟨healthyAfter, .of_eroded eroded member⟩

theorem keeps_delete (linkless : origin.Linkless) (reaches : origin.Reaches path directory)
    (proper : path.Proper) (named : IsName name) (member : directory ++ [name] ∈ areas)
    (cause : String → FileFailure → ArchiveCause) :
    Keeps (Confines origin areas) (Rebuilder.delete (path.child name) cause) :=
  keeps_of_eroded linkless reaches proper named member (eroded_of_delete proper named)

theorem keeps_discard (linkless : origin.Linkless) (reaches : origin.Reaches path directory)
    (proper : path.Proper) (named : IsName name) (member : directory ++ [name] ∈ areas)
    (notice : String) (cause : String → FileFailure → ArchiveCause) :
    Keeps (Confines origin areas) (rebuilder.discard (path.child name) notice cause) :=
  keeps_of_eroded linkless reaches proper named member (eroded_of_discard proper named)

/-! ### Preparing -/

theorem keeps_prepare (linkless : origin.Linkless) (reaches : origin.Reaches path directory)
    (proper : path.Proper) (named : IsName name) (staging : rebuilder.paths.staging = path.child name)
    (member : directory ++ [name] ∈ areas) :
    Keeps (Confines origin areas) rebuilder.prepare := by
  have cleared : Keeps (Confines origin areas) rebuilder.clearStaging :=
    keeps_of_eroded linkless reaches proper named member fun tracks healthy run =>
      eroded_of_clearStaging staging proper named tracks healthy run
  have made : Keeps (Confines origin areas) rebuilder.makeStaging := fun workspace _ _ healthy =>
    (keeps_makeStaging workspace healthy).imp_right Confined.of_grown
  refine cleared.bind fun _ => made.bind fun _ => Work.keeps_files.bind fun tree => ?_
  split
  · exact keeps_pure _
  · exact keeps_throw _

/-! ### Writing the copy -/

theorem keeps_putCopy (linkless : origin.Linkless) (reaches : origin.Reaches path directory)
    (proper : path.Proper) (named : IsName name) (copy : rebuilder.paths.copy = path.child name)
    (member : directory ++ [name] ∈ areas) (content : Bytes) :
    Keeps (Confines origin areas) (rebuilder.putCopy content) := by
  refine keeps_of_run fun {before after outcome} run clear start healthy => ?_
  rcases putCopy_cases run with ⟨_, files, done, rfl⟩ | ⟨rfl, _⟩
  · rw [copy] at done
    obtain ⟨_, place, _, settles, _, written⟩ :=
      FileTree.exists_written healthy.files proper named.1 done
    obtain rfl := linkless.eq_of_settles reaches clear start named settles
    exact ⟨⟨written.sound healthy.files, healthy.quiet⟩, .of_written written member⟩
  · exact ⟨healthy, refl_of (Confined areas) _⟩

theorem keeps_discardCopy (linkless : origin.Linkless) (reaches : origin.Reaches path directory)
    (proper : path.Proper) (named : IsName name) (copy : rebuilder.paths.copy = path.child name)
    (member : directory ++ [name] ∈ areas) : Keeps (Confines origin areas) rebuilder.discardCopy :=
  keeps_of_eroded linkless reaches proper named member fun tracks healthy run =>
    eroded_of_discardCopy copy proper named tracks healthy run

theorem keeps_serialize (linkless : origin.Linkless) (reaches : origin.Reaches path directory)
    (proper : path.Proper) (named : IsName name) (copy : rebuilder.paths.copy = path.child name)
    (member : directory ++ [name] ∈ areas) (manifest : Option Manifest) :
    Keeps (Confines origin areas) (rebuilder.serialize manifest) := by
  have put := keeps_putCopy linkless reaches proper named copy member
  unfold Rebuilder.serialize
  split
  · exact keeps_throw _
  next root _ =>
    have leftover : Keeps (Confines origin areas) rebuilder.discardLeftover := by
      rw [Rebuilder.discardLeftover, copy]
      exact keeps_discard linkless reaches proper named member _ _
    have write : Keeps (Confines origin areas) (rebuilder.writeCopy root manifest) :=
      (put []).bind fun _ => (keeps_archiveBytes rebuilder root manifest).confines.bind put
    refine leftover.bind fun _ => (Work.keeps_attempt write).bind fun outcome => ?_
    split
    · exact keeps_pure _
    · split
      · exact keeps_throw _
      · exact (keeps_discardCopy linkless reaches proper named copy member).bind fun _ => keeps_throw _

/-! ### Putting it in place -/

/-- Whatever the swap comes to, it touches the archive, the copy, and the backup, and nothing else. -/
theorem confined_of_finalize (linkless : origin.Linkless) (reaches : origin.Reaches path directory)
    (paths : Named rebuilder path name) (archiveMember : directory ++ [name] ∈ areas)
    (copyMember : directory ++ ["copy-" ++ name] ∈ areas)
    (backupMember : directory ++ ["old-" ++ name] ∈ areas) {before after : Workspace}
    (clear : before.files.Linkless) (start : before.files.start = origin.start)
    {archive copy : Files.File}
    (heldArchive : before.files.at? (directory ++ [name]) = some (.file archive))
    (heldCopy : before.files.at? (directory ++ ["copy-" ++ name]) = some (.file copy))
    (cleanCopy : FileTree.hasNul (path.child ("copy-" ++ name)).toString = false)
    {outcome : Outcome Path} (run : rebuilder.finalize before = (outcome, after)) :
    Follows (Confined areas) before after := by
  intro healthy
  have named := paths.named
  have tracks : ∀ {tree : FileTree} {other : String}, tree.Linkless → tree.start = origin.start →
      IsSegment other → tree.Tracks path other directory :=
    fun clear start segment => linkless.tracks reaches clear start paths.proper segment
  have discard : ∀ {outcome : Outcome Unit} {last : Workspace},
      rebuilder.discardBackup before = (outcome, last) →
        last.Healthy ∧ FileTree.Eroded before.files last.files (directory ++ ["old-" ++ name]) := by
    intro outcome last discarding
    rw [Rebuilder.discardBackup, paths.backup] at discarding
    exact eroded_of_discard paths.proper (isName_backup named)
      (tracks clear start (isName_backup named).1) healthy discarding
  unfold Rebuilder.finalize at run
  rcases bind_cases run with ⟨_, discarding, _⟩ | ⟨_, cleared, discarding, moving⟩
  · obtain ⟨healthyCleared, eroded⟩ := discard discarding
    exact ⟨healthyCleared, .of_eroded eroded backupMember⟩
  obtain ⟨healthyCleared, eroded⟩ := discard discarding
  have one : Confined areas before.files cleared.files := .of_eroded eroded backupMember
  have clearCleared : cleared.files.Linkless := one.linkless clear
  have startCleared := one.start.trans start
  have heldCleared := (eroded.at?_of_outside
    (FileTree.not_isBelow_sibling (backup_ne_archive name).symm [])).trans heldArchive
  have aside := fun {outcome : Outcome Unit} {last : Workspace} => @moveAside_cases rebuilder directory
    cleared last path name paths (tracks clearCleared startCleared named.1) healthyCleared _ heldCleared
    (by simp) outcome
  rcases bind_cases moving with ⟨_, moved, rfl⟩ | ⟨_, moved, movingAside, last⟩
  · rcases aside moved with ⟨answered, _⟩ | ⟨rfl, _⟩
    · cases answered
    · exact ⟨healthyCleared, one⟩
  rcases aside movingAside with ⟨_, healthyMoved, _, clean, fits, renamed⟩ | ⟨_, _, failed⟩
  swap
  · cases failed
  have two : Confined areas cleared.files moved.files :=
    .of_renamed renamed archiveMember backupMember
  have clearMoved : moved.files.Linkless := two.linkless clearCleared
  have empty : moved.files.at? (directory ++ [name]) = none := by
    rw [renamed.places, if_neg (by simpa using (backup_ne_archive name).symm), if_pos rfl]
  have heldMoved : moved.files.at? (directory ++ ["copy-" ++ name]) = some (.file copy) := by
    rw [renamed.places, if_neg (by simp [copy_ne_backup name]), if_neg (by simp [copy_ne_archive name]),
      eroded.at?_of_outside (FileTree.not_isBelow_sibling (copy_ne_backup name) []), heldCopy]
  have swap : ∀ {outcome : Outcome Unit} {final : Workspace}, rebuilder.moveIn moved = (outcome, final) →
      final.Healthy ∧ Confined areas moved.files final.files := by
    intro outcome final swapping
    rcases moveIn_cases paths (tracks clearMoved (two.start.trans startCleared)) healthyMoved fits empty
      heldMoved (by simp) clean cleanCopy swapping with
      ⟨_, healthyFinal, _, put⟩ | ⟨⟨healthyFinal, same⟩, _⟩
    · exact ⟨healthyFinal, .of_renamed put copyMember archiveMember⟩
    · exact ⟨healthyFinal, same ▸ refl_of (Confined areas) moved.files⟩
  have all : ∀ {final : FileTree}, Confined areas moved.files final → Confined areas before.files final :=
    fun three => trans_of (Confined areas) one (trans_of (Confined areas) two three)
  rcases bind_cases last with ⟨_, swapping, _⟩ | ⟨_, swapped, swapping, ending⟩
  · exact (swap swapping).imp_right all
  · obtain ⟨_, rfl⟩ := pure_ok ending
    exact (swap swapping).imp_right all

end Beside

end Rebuild
end ClassLoom
