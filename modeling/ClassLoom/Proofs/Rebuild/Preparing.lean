import ClassLoom.Proofs.Rebuild.Beside

namespace ClassLoom
namespace Rebuild

/-!
# Preparing the staging directory

Whatever the preparation answers, it takes away nothing but what is at or below the staging directory,
and makes nothing but directories.  If it succeeds, the directory is where its path settled before,
and the archive is still found in its own directory, even if the path to it leads through what has
been taken away and made again.
-/

open Files (FileTree FileWork Path IsName IsSegment)

variable {rebuilder prepared : Rebuilder} {path : Path} {name : String} {directory : Files.Location}
  {before after : Workspace}

/-- What becomes of a leftover staging directory: it stays, or it is taken away. -/
inductive Cleared (rebuilder : Rebuilder) (path : Path) (directory top : Files.Location)
    (before after : FileTree) : Prop
  | same : after = before → Cleared rebuilder path directory top before after
  | swept {middle : FileTree} : rebuilder.policy = .clean →
      before.exists? rebuilder.paths.staging = .ok true → middle.Reaches path directory →
      FileWork.Swept before middle after top → Cleared rebuilder path directory top before after

theorem eroded_of_clearStaging (staging : rebuilder.paths.staging = path.child name)
    (proper : path.Proper) (named : IsName name) (tracks : before.files.Tracks path name directory)
    (healthy : before.Healthy) {outcome : Outcome Unit}
    (run : rebuilder.clearStaging before = (outcome, after)) :
    after.Healthy ∧ FileTree.Eroded before.files after.files (directory ++ [name]) := by
  unfold Rebuilder.clearStaging at run
  simp only [staging] at run
  rcases bind_cases run with ⟨failure, asked, _⟩ | ⟨present, middle, asked, further⟩
  · obtain ⟨rfl, _⟩ := Work.ask_cases asked
    exact ⟨healthy, .refl _ _⟩
  obtain ⟨rfl, _⟩ := Work.ask_cases asked
  cases present with
  | false =>
      obtain ⟨_, rfl⟩ := pure_ok further
      exact ⟨healthy, .refl _ _⟩
  | true =>
      cases policy : rebuilder.policy with
      | reuse =>
          rw [policy] at further
          obtain ⟨sound, same⟩ := (Log.keeps_warning _ _).still healthy further
          exact ⟨sound, same ▸ .refl _ _⟩
      | clean =>
          rw [policy] at further
          rcases bind_cases further with ⟨failure, logged, _⟩ | ⟨_, later, logged, deleting⟩
          · obtain ⟨sound, same⟩ := (Log.keeps_warning _ _).still healthy logged
            exact ⟨sound, same ▸ .refl _ _⟩
          · obtain ⟨sound, same⟩ := (Log.keeps_warning _ _).still healthy logged
            have eroded := eroded_of_delete proper named (same ▸ tracks) sound deleting
            exact ⟨eroded.1, same ▸ eroded.2⟩

theorem cleared_of_clearStaging (staging : rebuilder.paths.staging = path.child name)
    (proper : path.Proper) (named : IsName name) (reaches : before.files.Reaches path directory)
    (healthy : before.Healthy) (run : rebuilder.clearStaging before = (.ok (), after)) :
    Cleared rebuilder path directory (directory ++ [name]) before.files after.files := by
  unfold Rebuilder.clearStaging at run
  simp only [staging] at run
  obtain ⟨present, middle, asked, further⟩ := bind_ok run
  obtain ⟨rfl, answered⟩ := Work.ask_cases asked
  cases present with
  | false =>
      obtain ⟨_, rfl⟩ := pure_ok further
      exact .same rfl
  | true =>
      cases policy : rebuilder.policy with
      | reuse =>
          rw [policy] at further
          exact .same ((Log.keeps_warning _ _).still healthy further).2
      | clean =>
          rw [policy] at further
          obtain ⟨_, later, logged, deleting⟩ := bind_ok further
          obtain ⟨sound, same⟩ := (Log.keeps_warning _ _).still healthy logged
          rcases swept_of_delete proper named (same ▸ reaches) sound deleting with
            ⟨still, _⟩ | ⟨emptied, survives, swept⟩
          · exact .same (still.trans same)
          · refine .swept policy ?_ survives (same ▸ swept)
            rw [staging]
            split at answered
            next value seen => exact Except.ok.inj answered ▸ seen
            next => cases answered

theorem keeps_makeStaging : Keeps (Follows FileTree.Grown) rebuilder.makeStaging := by
  have make : Keeps (Follows FileTree.Grown) (Work.recast
      (rebuildFailure (.cannotCreateStaging rebuilder.paths.staging.toString))
      (Work.onFiles (FileWork.createDirectory rebuilder.paths.staging.toString))) := by
    refine Work.keeps_recast (Work.keeps_onFiles (keeps_of_run fun run sound => ?_))
    have grown := FileWork.grown_of_createDirectory run
    exact ⟨grown.sound sound, grown⟩
  refine (Work.keeps_ask _).bind fun present => ?_
  simp only
  split
  · refine (Work.keeps_ask _).bind fun isDirectory => ?_
    split
    · exact (keeps_throw _).bind fun _ => make
    · exact make
  · exact make

theorem stat_of_makeStaging (staging : rebuilder.paths.staging = path.child name)
    (proper : path.Proper) (named : IsName name)
    (run : rebuilder.makeStaging before = (.ok (), after)) :
    ∃ place, after.files.stat true (path.child name).toString = .ok (place, .directory) := by
  have made : ∀ {workspace : Workspace}, Work.recast
      (rebuildFailure (.cannotCreateStaging (path.child name).toString))
      (Work.onFiles (FileWork.createDirectory (path.child name).toString)) workspace = (.ok (), after) →
      ∃ place, after.files.stat true (path.child name).toString = .ok (place, .directory) := by
    intro workspace making
    rcases Work.recast_cases making with ⟨_, stage, _⟩ | ⟨_, _, failed⟩
    · obtain ⟨files, done, rfl⟩ := Work.onFiles_cases stage
      exact FileWork.stat_of_createDirectory proper named done
    · cases failed
  unfold Rebuilder.makeStaging at run
  simp only [staging] at run
  obtain ⟨present, middle, asked, further⟩ := bind_ok run
  split at further
  · obtain ⟨isDirectory, later, _, making⟩ := bind_ok further
    split at making
    · obtain ⟨_, _, refused, _⟩ := bind_ok making
      cases (throw_error refused).1
    · exact made making
  · exact made further

/-- Whatever the preparation answers, files outside the staging directory are as they were. -/
theorem kept_of_prepare (staging : rebuilder.paths.staging = path.child name)
    (proper : path.Proper) (named : IsName name) (reaches : before.files.Reaches path directory)
    (healthy : before.Healthy) {outcome : Outcome Rebuilder}
    (run : rebuilder.prepare before = (outcome, after)) :
    after.Healthy ∧ ∀ {place : Files.Location} {file : Files.File},
      FileTree.isBelow place (directory ++ [name]) = false →
      before.files.at? place = some (.file file) → after.files.at? place = some (.file file) := by
  unfold Rebuilder.prepare at run
  rcases bind_cases run with ⟨failure, cleared, _⟩ | ⟨_, swept, cleared, further⟩
  · obtain ⟨sound, eroded⟩ := eroded_of_clearStaging staging proper named (.inl reaches) healthy cleared
    exact ⟨sound, fun outside held => (eroded.at?_of_outside outside).trans held⟩
  obtain ⟨soundSwept, eroded⟩ := eroded_of_clearStaging staging proper named (.inl reaches) healthy cleared
  have follows : Follows FileTree.Grown swept after := by
    refine Keeps.run ?_ further
    refine keeps_makeStaging.bind fun _ => Work.keeps_files.bind fun tree => ?_
    split
    · exact keeps_pure _
    · exact keeps_throw _
  obtain ⟨sound, grown⟩ := follows soundSwept
  exact ⟨sound, fun outside held =>
    grown.at?_of_some ((eroded.at?_of_outside outside).trans held)⟩

/-- What a preparation that succeeds leads to. -/
structure Prepared (rebuilder prepared : Rebuilder) (path : Path) (name : String)
    (directory region : Files.Location) (before after : FileTree) : Prop where
  shape : prepared = { rebuilder with root := some (FileTree.pathOf region) }
  named : ∀ part ∈ region, IsName part
  reaches : after.Reaches path directory
  fits : FileTree.Fits path name
  clean : FileTree.hasNul (path.child name).toString = false
  settles : FileTree.Settles before (before.base path) (path.parts ++ [name]) region
  alive : after.at? region = some .directory
  start : after.start = before.start
  links : ∀ {place : Files.Location} {target : String},
    after.at? place = some (.link target) → before.at? place = some (.link target)
  files : ∀ {place : Files.Location} {file : Files.File}, FileTree.isBelow place region = false →
    before.at? place = some (.file file) → after.at? place = some (.file file)
  change : FileTree.Grown before after ∨ rebuilder.policy = .clean ∧
    before.exists? rebuilder.paths.staging = .ok true

theorem prepared_of_prepare (staging : rebuilder.paths.staging = path.child name)
    (proper : path.Proper) (named : IsName name) (reaches : before.files.Reaches path directory)
    (healthy : before.Healthy)
    (steady : rebuilder.policy = .clean → before.files.isLink? (path.child name) ≠ .ok true)
    (run : rebuilder.prepare before = (.ok prepared, after)) :
    ∃ region, Prepared rebuilder prepared path name directory region before.files after.files := by
  obtain ⟨soundAfter, files⟩ := kept_of_prepare staging proper named reaches healthy run
  unfold Rebuilder.prepare at run
  obtain ⟨_, swept, cleared, further⟩ := bind_ok run
  obtain ⟨_, made, making, settling⟩ := bind_ok further
  have soundSwept := (eroded_of_clearStaging staging proper named (.inl reaches) healthy cleared).1
  obtain ⟨place, seen⟩ := stat_of_makeStaging staging proper named making
  obtain ⟨_, grown⟩ := keeps_makeStaging.run making soundSwept
  rw [Work.files_bind] at settling
  cases resolved : made.files.resolve? rebuilder.paths.staging with
  | none =>
      rw [resolved] at settling
      cases (throw_error settling).1
  | some region =>
      rw [resolved] at settling
      obtain ⟨same, rfl⟩ := pure_ok settling
      obtain rfl := Except.ok.inj same
      obtain ⟨clean, found⟩ := FileTree.stat_eq_ok_iff.1 seen
      obtain ⟨there, settles, sighted⟩ := FileTree.settles_of_find soundAfter.files proper named found
      have elsewhere := FileTree.settles_of_resolve resolved
      rw [staging] at elsewhere
      obtain rfl : there = region := settles.unique elsewhere
      have alive : after.files.at? there = some .directory := by
        cases sighted with
        | found held _ => exact held
      have parts : ∀ part ∈ there, IsName part := soundAfter.files.named alive
      obtain ⟨_, _, fits⟩ := FileTree.exists_reaches proper named found
      refine ⟨there, ?_⟩
      cases cleared_of_clearStaging staging proper named reaches healthy cleared with
      | same still =>
          rw [still] at grown
          have links : ∀ {place : Files.Location} {target : String},
              after.files.at? place = some (.link target) ↔
                before.files.at? place = some (.link target) :=
            ⟨fun held => grown.at?_of_not_directory held (by simp), grown.at?_of_some⟩
          have from_ : after.files.base path = before.files.base path := by
            rw [FileTree.base, FileTree.base, grown.start]
          exact ⟨rfl, parts, reaches.mono grown.carries grown.start, fits, clean,
            from_ ▸ settles.congr links,
            alive, grown.start, links.1, fun _ held => grown.at?_of_some held, .inl grown⟩
      | swept policy present survives sweep =>
          have plain := plain_of_isLink reaches proper named fits clean (steady policy)
          have start : after.files.start = before.files.start := grown.start.trans sweep.start
          have tracks := survives.narrowed (sweep.narrows plain grown)
            (start.trans sweep.startMiddle.symm) proper named.1
          have reachesMade := tracks.reaches found
          have bare : ∀ target, after.files.at? (directory ++ [name]) ≠ some (.link target) := by
            intro target held
            have gone := grown.at?_of_not_directory held (by simp)
            rw [sweep.places, if_pos (FileTree.isBelow_refl _)] at gone
            cases gone
          obtain rfl : there = directory ++ [name] :=
            settles.unique (reachesMade.settles named bare)
          refine ⟨rfl, parts, reachesMade, fits, clean, reaches.settles named plain, alive, start,
            ?_, files,
            .inr ⟨policy, present⟩⟩
          intro other target held
          have kept := grown.at?_of_not_directory held (by simp)
          rw [sweep.places] at kept
          split at kept
          · cases kept
          · exact kept

/-- A rebuilder that is prepared for an archive beside which no link takes the place of the staging
directory. -/
structure Ready (artifact : Path) (policy : Config.StagingPolicy) (logger : String)
    (directory : Files.Location) (before after : Workspace) (prepared : Rebuilder) : Prop where
  healthy : after.Healthy
  paths : Named prepared artifact.parent artifact.name
  made : Prepared (.new artifact policy logger) prepared artifact.parent (artifact.name ++ ".tmp")
    directory (directory ++ [artifact.name ++ ".tmp"]) before.files after.files
  rooted : Rooted prepared (directory ++ [artifact.name ++ ".tmp"])

theorem ready_of_prepare {artifact : Path} {policy : Config.StagingPolicy} {logger : String}
    (proper : artifact.Proper) (nonempty : artifact.parts ≠ []) (named : IsName artifact.name)
    (reaches : before.files.Reaches artifact.parent directory) (healthy : before.Healthy)
    (direct : before.files.isLink? (artifact.parent.child (artifact.name ++ ".tmp")) ≠ .ok true)
    (run : (Rebuilder.new artifact policy logger).prepare before = (.ok prepared, after)) :
    Ready artifact policy logger directory before after prepared := by
  have paths := named_of_new proper nonempty named policy logger
  have staging := isName_staging named
  obtain ⟨healthyAfter, _⟩ := kept_of_prepare paths.staging paths.proper staging reaches healthy run
  obtain ⟨region, made⟩ := prepared_of_prepare paths.staging paths.proper staging reaches healthy
    (fun _ => direct) run
  obtain rfl : region = directory ++ [artifact.name ++ ".tmp"] := made.settles.unique
    (reaches.settles staging (plain_of_isLink reaches paths.proper staging made.fits made.clean direct))
  exact ⟨healthyAfter, paths.of_same (by rw [made.shape]), made, by rw [made.shape], made.named⟩

end Rebuild
end ClassLoom
