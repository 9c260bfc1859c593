import ClassLoom.Proofs.Rebuild.Beside
import ClassLoom.Rebuild.Serializing

namespace ClassLoom
namespace Rebuild

/-!
# Writing the copy

The copy is opened at a path at which nothing can be found, so opening it makes a file where nothing
was: at the end of the path, or where a link at the end of the path leads.  Filling it changes that
file, and going through the staging directory changes nothing.  So whatever was there before, outside
of what was left at the path of the copy, is there afterwards, also if the copy could not be written.
-/

open Files (FileTree FileWork Path IsName IsSegment)

variable {rebuilder : Rebuilder} {path : Path} {name : String} {directory : Files.Location}
  {before after : Workspace}

section Reading

variable {related : Workspace → Workspace → Prop} [Logging related]

theorem keeps_collectDirectory (rebuilder : Rebuilder) (key : String) (written : Written) :
    Keeps related (collectDirectory rebuilder key written) := by
  unfold collectDirectory
  split
  · exact Work.keeps_files.bind fun _ => (Work.keeps_ofOutcome _).bind fun _ => keeps_pure _
  · exact keeps_pure _

theorem keeps_collectFile (rebuilder : Rebuilder) (path : Path) (key : String) (written : Written) :
    Keeps related (collectFile rebuilder path key written) := by
  unfold collectFile
  split
  · exact (Work.keeps_ask _).bind fun _ => (Work.keeps_ofOutcome _).bind fun _ => keeps_pure _
  · exact (Log.keeps_debug _ _).bind fun _ => keeps_pure _

theorem keeps_collectName {descend : Path → String → Written → Work Written}
    (below : ∀ path key written, Keeps related (descend path key written)) (child : Path)
    (key : String) (written : Written) :
    Keeps related (collectName rebuilder descend child key written) := by
  refine (Work.keeps_ask _).bind fun isDirectory => ?_
  split
  · exact (keeps_collectDirectory _ _ _).bind fun _ => below _ _ _
  refine (Work.keeps_ask _).bind fun isFile => ?_
  split
  · exact keeps_collectFile _ _ _ _
  · exact keeps_pure _

theorem keeps_collect (rebuilder : Rebuilder) (depth : Nat) (root : Path) (above : String)
    (written : Written) : Keeps related (collect rebuilder depth root above written) := by
  induction depth generalizing root above written with
  | zero => exact keeps_pure written
  | succ depth inductionHypothesis =>
      refine (Work.keeps_ask _).bind fun names => ?_
      exact keeps_foldlM (fun written item => keeps_collectName inductionHypothesis _ _ _) names written

theorem keeps_archiveBytes (rebuilder : Rebuilder) (root : Path) (manifest : Option Manifest) :
    Keeps related (rebuilder.archiveBytes root manifest) := by
  refine (keeps_collect rebuilder _ root "" []).bind fun written => ?_
  simp only
  split
  · exact (keeps_throw _).bind fun _ => keeps_pure _
  · exact keeps_pure _

end Reading

/-! ## Opening the copy -/

theorem putCopy_cases {content : Bytes} {outcome : Outcome Unit}
    (run : rebuilder.putCopy content before = (outcome, after)) :
    (outcome = .ok () ∧ ∃ files, before.files.write rebuilder.paths.copy.toString content = .ok files ∧
      after = { before with files }) ∨
    (after = before ∧ ∃ failure, outcome = .error failure) := by
  unfold Rebuilder.putCopy at run
  obtain ⟨files, put, rfl⟩ := Work.onFiles_cases run
  rw [get_bind] at put
  cases written : before.files.write rebuilder.paths.copy.toString content with
  | ok changed =>
      rw [written] at put
      obtain ⟨rfl, rfl⟩ := Prod.mk.inj put
      exact .inl ⟨rfl, _, rfl, rfl⟩
  | error error =>
      rw [written] at put
      obtain ⟨rfl, rfl⟩ := throw_error put
      exact .inr ⟨rfl, _, rfl⟩

theorem clean_of_write {tree files : FileTree} {raw : String} {content : Bytes}
    (done : tree.write raw content = .ok files) : FileTree.hasNul raw = false := by
  unfold FileTree.write at done
  split at done
  · cases done
  next clean => simpa using clean

/-- Where a copy is made: nothing was there, and the directory of the archive is still found. -/
structure Fresh (tree files : FileTree) (path : Path) (name : String) (directory : Files.Location)
    (place : Files.Location) (content : Bytes) : Prop where
  reaches : tree.Reaches path directory
  settles : FileTree.Settles tree (tree.base path) (path.parts ++ [name]) place
  absent : tree.at? place = none
  written : FileTree.Written tree files place content
  clean : FileTree.hasNul (path.child name).toString = false
  fits : FileTree.Fits path name

/-- After what was left of an earlier copy is gone, the copy is a new file. -/
theorem fresh_of_discard {cause : String → FileFailure → ArchiveCause} {notice : String}
    (proper : path.Proper) (named : IsName name) (reaches : before.files.Reaches path directory)
    (healthy : before.Healthy)
    (cleared : rebuilder.discard (path.child name) notice cause before = (.ok (), after))
    {content : Bytes} {files : FileTree}
    (done : after.files.write (path.child name).toString content = .ok files) :
    ∃ place, Fresh after.files files path name directory place content ∧
      ((∀ target, before.files.at? (directory ++ [name]) ≠ some (.link target)) ∨
        before.files.exists? (path.child name) = .ok true → place = directory ++ [name]) := by
  obtain ⟨sound, eroded⟩ := eroded_of_discard proper named (.inl reaches) healthy cleared
  obtain ⟨spot, place, found, settles, sighted, written⟩ :=
    FileTree.exists_written sound.files proper named.1 done
  have clean := clean_of_write done
  have tracks := reaches.narrowed eroded.narrows eroded.start proper named.1
  have reachesAfter := tracks.reaches found
  obtain ⟨_, _, fits⟩ := FileTree.exists_reaches proper named found
  rcases swept_of_discard proper named reaches healthy cleared with
    ⟨same, unseen⟩ | ⟨middle, survives, sweep⟩
  · have absent : after.files.at? place = none := by
      cases sighted with
      | missing _ _ absent => exact absent
      | found held _ =>
          have seen := FileTree.exists_of_stat (FileTree.stat_eq_ok_iff.2 ⟨clean, found⟩)
          rw [same, unseen] at seen
          cases Except.ok.inj seen
    refine ⟨place, ⟨reachesAfter, settles, absent, written, clean, fits⟩, ?_⟩
    rintro (plain | seen)
    · exact settles.unique (reachesAfter.settles named (same ▸ plain))
    · rw [unseen] at seen
      cases Except.ok.inj seen
  · have gone : after.files.at? (directory ++ [name]) = none := by
      rw [sweep.places, if_pos (FileTree.isBelow_refl _)]
    obtain rfl : place = directory ++ [name] :=
      settles.unique (reachesAfter.settles named (by simp [gone]))
    exact ⟨_, ⟨reachesAfter, settles, gone, written, clean, fits⟩, fun _ => rfl⟩

/-! ## Filling the copy -/

/-- What was there is there. -/
def Retains (before after : FileTree) : Prop :=
  after.start = before.start ∧ ∀ {place : Files.Location} {entry : Files.Entry},
    before.at? place = some entry → after.at? place = some entry

/-- The bytes of an archive that was written, and the tree from which they were collected. -/
structure Copied (rebuilder : Rebuilder) (root : Path) (manifest : Option Manifest)
    (path : Path) (name : String) (directory place : Files.Location) (before after : Workspace)
    (opened : Workspace) (bytes : Bytes) : Prop where
  fresh : Fresh before.files opened.files path name directory place []
  healthy : opened.Healthy
  collected : ∃ last, rebuilder.archiveBytes root manifest opened = (.ok bytes, last)
  start : after.files.start = before.files.start
  places : ∃ id, ∀ other, after.files.at? other =
    if other = place then some (.file ⟨id, bytes, opened.files.clock⟩) else before.files.at? other

section Copied

variable {root : Path} {manifest : Option Manifest} {place : Files.Location} {opened : Workspace}
  {bytes : Bytes}

theorem Copied.retains (copied : Copied rebuilder root manifest path name directory place before after
    opened bytes) {other : Files.Location} {entry : Files.Entry}
    (held : before.files.at? other = some entry) : after.files.at? other = some entry := by
  obtain ⟨_, places⟩ := copied.places
  have away : other ≠ place := by
    rintro rfl
    rw [copied.fresh.absent] at held
    cases held
  rw [places, if_neg away, held]

theorem Copied.reaches (copied : Copied rebuilder root manifest path name directory place before after
    opened bytes) : after.files.Reaches path directory :=
  copied.fresh.reaches.mono (fun held _ => copied.retains held) copied.start

/-- Something that can be renamed is at the path of the copy: the copy, or a link that leads to it. -/
theorem Copied.held (copied : Copied rebuilder root manifest path name directory place before after
    opened bytes) (named : IsName name) :
    ∃ entry, after.files.at? (directory ++ [name]) = some entry ∧ entry ≠ .directory := by
  by_cases linked : ∃ target, before.files.at? (directory ++ [name]) = some (.link target)
  · obtain ⟨target, held⟩ := linked
    exact ⟨.link target, copied.retains held, by simp⟩
  · have plain : ∀ target, before.files.at? (directory ++ [name]) ≠ some (.link target) :=
      fun target held => linked ⟨target, held⟩
    obtain rfl : place = directory ++ [name] :=
      copied.fresh.settles.unique (copied.fresh.reaches.settles named plain)
    obtain ⟨id, places⟩ := copied.places
    exact ⟨_, (places _).trans (if_pos rfl), by simp⟩

end Copied

theorem writeCopy_cases (copy : rebuilder.paths.copy = path.child name) (proper : path.Proper)
    (named : IsName name) (healthy : before.Healthy) {suits : Files.Location → Prop}
    (opens : ∀ {content : Bytes} {files : FileTree},
      before.files.write (path.child name).toString content = .ok files →
        ∃ place, Fresh before.files files path name directory place content ∧ suits place)
    {root : Path} {manifest : Option Manifest} {outcome : Outcome Unit}
    (run : rebuilder.writeCopy root manifest before = (outcome, after)) :
    after.Healthy ∧ Retains before.files after.files ∧
      (after.files = before.files ∨ before.files.Reaches path directory) ∧
      (outcome = .ok () → ∃ place opened bytes, suits place ∧
        Copied rebuilder root manifest path name directory place before after opened bytes) := by
  unfold Rebuilder.writeCopy at run
  rcases bind_cases run with ⟨failure, put, rfl⟩ | ⟨_, opened, put, further⟩
  · rcases putCopy_cases put with ⟨answered, _⟩ | ⟨rfl, _⟩
    · cases answered
    · exact ⟨healthy, ⟨rfl, id⟩, .inl rfl, fun answered => by cases answered⟩
  rcases putCopy_cases put with ⟨_, files, written, rfl⟩ | ⟨_, _, failed⟩
  swap
  · cases failed
  rw [copy] at written
  obtain ⟨place, fresh, suited⟩ := opens written
  have soundFiles := fresh.written.sound healthy.files
  have healthyOpened : Workspace.Healthy { before with files } := ⟨soundFiles, healthy.quiet⟩
  have kept : Retains before.files files := by
    refine ⟨fresh.written.start, fun {other entry} held => ?_⟩
    have apart : other ≠ place := by
      rintro rfl
      rw [fresh.absent] at held
      cases held
    rw [fresh.written.at?_of_ne apart, held]
  rcases bind_cases further with ⟨failure, collected, rfl⟩ | ⟨bytes, last, collected, filling⟩
  · obtain ⟨sound, same⟩ := (keeps_archiveBytes rebuilder root manifest).still healthyOpened collected
    exact ⟨sound, same ▸ kept, .inr fresh.reaches, fun answered => by cases answered⟩
  obtain ⟨sound, same⟩ := (keeps_archiveBytes rebuilder root manifest).still healthyOpened collected
  rcases putCopy_cases filling with ⟨rfl, filled, done, rfl⟩ | ⟨rfl, failure, rfl⟩
  swap
  · exact ⟨sound, same ▸ kept, .inr fresh.reaches, fun answered => by cases answered⟩
  rw [copy, same] at done
  obtain ⟨_, again, _, settles, _, filledAt⟩ :=
    FileTree.exists_written soundFiles proper named.1 done
  have from_ : files.base path = before.files.base path := by
    rw [FileTree.base, FileTree.base, kept.1]
  rw [from_] at settles
  obtain rfl : place = again :=
    (fresh.settles.congr fun {_ _} => fresh.written.at?_iff rfl).unique settles
  have apart : ∀ {other : Files.Location}, other ≠ place → filled.at? other = before.files.at? other :=
    fun away => (filledAt.at?_of_ne away).trans (fresh.written.at?_of_ne away)
  have start : filled.start = before.files.start := filledAt.start.trans kept.1
  refine ⟨⟨filledAt.sound soundFiles, sound.quiet⟩, ⟨start, ?_⟩, .inr fresh.reaches,
    fun _ => ⟨place, _, bytes, suited, fresh, healthyOpened, ⟨last, collected⟩, start, ?_⟩⟩
  · intro other entry held
    have away : other ≠ place := by
      rintro rfl
      rw [fresh.absent] at held
      cases held
    rw [apart away, held]
  · obtain ⟨id, places⟩ := filledAt.places
    refine ⟨id, fun other => ?_⟩
    by_cases here : other = place
    · rw [if_pos here, places, if_pos here]
    · rw [if_neg here, apart here]

/-! ## The whole of it -/

theorem eroded_of_discardCopy (copy : rebuilder.paths.copy = path.child name) (proper : path.Proper)
    (named : IsName name) (tracks : before.files.Tracks path name directory)
    (healthy : before.Healthy) {outcome : Outcome Unit}
    (run : rebuilder.discardCopy before = (outcome, after)) :
    after.Healthy ∧ FileTree.Eroded before.files after.files (directory ++ [name]) := by
  unfold Rebuilder.discardCopy at run
  simp only [copy] at run
  obtain ⟨result, middle, stage, ending⟩ := Work.attempt_bind run
  obtain ⟨files, deleting, rfl⟩ := Work.onFiles_cases stage
  have eroded := (FileWork.deleted_of_deleteTree (proper.child named.1) deleting).eroded proper named
    tracks
  have healthyMiddle : Workspace.Healthy { before with files } :=
    ⟨eroded.sound healthy.files, healthy.quiet⟩
  have still : after.Healthy ∧ after.files = files := by
    refine Keeps.still ?_ healthyMiddle ending
    split
    · exact keeps_pure _
    · exact Log.keeps_warning _ _
    · exact keeps_throw _
  exact ⟨still.1, still.2 ▸ eroded⟩

/-- Whatever writing the copy answers, what was outside of a leftover copy is as it was. -/
theorem kept_of_serialize (copy : rebuilder.paths.copy = path.child name) (proper : path.Proper)
    (named : IsName name) (reaches : before.files.Reaches path directory) (healthy : before.Healthy)
    {manifest : Option Manifest} {outcome : Outcome Path}
    (run : rebuilder.serialize manifest before = (outcome, after)) :
    after.Healthy ∧ ∀ {place : Files.Location} {entry : Files.Entry},
      FileTree.isBelow place (directory ++ [name]) = false →
      before.files.at? place = some entry → after.files.at? place = some entry := by
  unfold Rebuilder.serialize at run
  cases root : rebuilder.root with
  | none =>
      rw [root] at run
      obtain ⟨_, rfl⟩ := throw_error run
      exact ⟨healthy, fun _ held => held⟩
  | some root =>
      simp only [root] at run
      rcases bind_cases run with ⟨failure, cleared, _⟩ | ⟨_, middle, cleared, further⟩
      · rw [Rebuilder.discardLeftover, copy] at cleared
        obtain ⟨sound, eroded⟩ := eroded_of_discard proper named (.inl reaches) healthy cleared
        exact ⟨sound, fun outside held => (eroded.at?_of_outside outside).trans held⟩
      rw [Rebuilder.discardLeftover, copy] at cleared
      obtain ⟨soundMiddle, eroded⟩ := eroded_of_discard proper named (.inl reaches) healthy cleared
      obtain ⟨result, later, attempted, ending⟩ := Work.attempt_bind further
      obtain ⟨soundLater, kept, way, _⟩ := writeCopy_cases copy proper named soundMiddle
        (fresh_of_discard proper named reaches healthy cleared) attempted
      have held : ∀ {place : Files.Location} {entry : Files.Entry},
          FileTree.isBelow place (directory ++ [name]) = false →
          before.files.at? place = some entry → later.files.at? place = some entry :=
        fun outside held => kept.2 ((eroded.at?_of_outside outside).trans held)
      cases result with
      | ok _ =>
          obtain ⟨_, rfl⟩ := pure_ok ending
          exact ⟨soundLater, held⟩
      | error failure =>
          have tracks : later.files.Tracks path name directory := by
            rcases way with same | reachesMiddle
            · rw [same]
              exact reaches.narrowed eroded.narrows eroded.start proper named.1
            · exact .inl (reachesMiddle.mono (fun held _ => kept.2 held) kept.1)
          simp only at ending
          split at ending
          · obtain ⟨_, rfl⟩ := throw_error ending
            exact ⟨soundLater, held⟩
          · rcases bind_cases ending with ⟨_, discarded, _⟩ | ⟨_, last, discarded, thrown⟩
            · obtain ⟨sound, worn⟩ := eroded_of_discardCopy copy proper named tracks soundLater discarded
              exact ⟨sound, fun outside there => (worn.at?_of_outside outside).trans (held outside there)⟩
            · obtain ⟨_, rfl⟩ := throw_error thrown
              obtain ⟨sound, worn⟩ := eroded_of_discardCopy copy proper named tracks soundLater discarded
              exact ⟨sound, fun outside there => (worn.at?_of_outside outside).trans (held outside there)⟩

/-- A serialization that succeeds has cleared the path of the copy and written the copy. -/
theorem copied_of_serialize (copy : rebuilder.paths.copy = path.child name) (proper : path.Proper)
    (named : IsName name) (reaches : before.files.Reaches path directory) (healthy : before.Healthy)
    {manifest : Option Manifest} {answer : Path}
    (run : rebuilder.serialize manifest before = (.ok answer, after)) :
    ∃ root cleared place opened bytes, rebuilder.root = some root ∧ cleared.Healthy ∧
      FileTree.Eroded before.files cleared.files (directory ++ [name]) ∧
      Copied rebuilder root manifest path name directory place cleared after opened bytes ∧
      ((∀ target, before.files.at? (directory ++ [name]) ≠ some (.link target)) ∨
        before.files.exists? (path.child name) = .ok true → place = directory ++ [name]) := by
  unfold Rebuilder.serialize at run
  cases root : rebuilder.root with
  | none =>
      rw [root] at run
      cases (throw_error run).1
  | some root =>
      simp only [root] at run
      obtain ⟨_, cleared, clearing, further⟩ := bind_ok run
      rw [Rebuilder.discardLeftover, copy] at clearing
      obtain ⟨soundCleared, eroded⟩ := eroded_of_discard proper named (.inl reaches) healthy clearing
      obtain ⟨result, later, attempted, ending⟩ := Work.attempt_bind further
      cases result with
      | error failure =>
          simp only at ending
          split at ending
          · cases (throw_error ending).1
          · obtain ⟨_, _, _, thrown⟩ := bind_ok ending
            cases (throw_error thrown).1
      | ok _ =>
          obtain ⟨_, rfl⟩ := pure_ok ending
          obtain ⟨_, _, _, written⟩ := writeCopy_cases copy proper named soundCleared
            (fresh_of_discard proper named reaches healthy clearing) attempted
          obtain ⟨place, opened, bytes, suited, copied⟩ := written rfl
          exact ⟨_, cleared, place, opened, bytes, rfl, soundCleared, eroded, copied, suited⟩

end Rebuild
end ClassLoom
