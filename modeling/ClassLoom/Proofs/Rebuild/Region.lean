import ClassLoom.Proofs.Files.Guarded
import ClassLoom.Proofs.Frame
import ClassLoom.Proofs.Rebuild.Failing

namespace ClassLoom

/-!
# Staging stays in its region

An entry is staged at a path that was seen to settle inside the staging directory.  The look was
taken before the directories on the way were made, but these are no links, and only links decide where
a path settles; so what is then written is inside.

The kind of change that staging makes is `Within` a region: directories may be new anywhere, since an
entry may go through a directory that does not exist and back up again, but directories and links stay,
no link is new, and no file outside the region comes, goes, or changes.
-/

open Files (FileTree FileWork Path)

variable {region : Files.Location}

/-- A tree that differs from another by directories and by files in a region. -/
structure Within (region : Files.Location) (before after : FileTree) : Prop where
  carries : FileTree.Carries before after
  links : ∀ {place : Files.Location} {target : String},
    after.at? place = some (.link target) → before.at? place = some (.link target)
  files : ∀ {place : Files.Location} {file : Files.File}, FileTree.isBelow place region = false →
    (before.at? place = some (.file file) ↔ after.at? place = some (.file file))
  start : after.start = before.start

namespace Within

instance : Frame (Within region) where
  refl _ := ⟨fun held _ => held, fun held => held, fun _ => Iff.rfl, rfl⟩
  trans _ _ _ first second :=
    ⟨fun held leadsOn => second.carries (first.carries held leadsOn) leadsOn,
      fun held => first.links (second.links held),
      fun outside => (first.files outside).trans (second.files outside),
      second.start.trans first.start⟩
  clock _ _ := ⟨fun held _ => held, fun held => held, fun _ => Iff.rfl, rfl⟩

theorem of_grown {before after : FileTree} (grown : FileTree.Grown before after) :
    Within region before after := by
  refine ⟨grown.carries, fun held => grown.at?_of_not_directory held (by simp), fun _ => ?_, grown.start⟩
  exact ⟨fun held => grown.at?_of_some held, fun held => grown.at?_of_not_directory held (by simp)⟩

theorem of_written {before after : FileTree} {place : Files.Location} {content : Bytes}
    (written : FileTree.Written before after place content)
    (inside : FileTree.isBelow place region = true) : Within region before after := by
  refine ⟨written.carries, fun held => (written.at?_iff rfl).2 held, fun {other file} outside => ?_,
    written.start⟩
  have apart : other ≠ place := by
    rintro rfl
    exact absurd (inside.symm.trans outside) Bool.noConfusion
  rw [written.at?_of_ne apart]

theorem link_iff {before after : FileTree} (within : Within region before after)
    {place : Files.Location} {target : String} :
    before.at? place = some (.link target) ↔ after.at? place = some (.link target) :=
  ⟨fun held => within.carries held rfl, within.links⟩

end Within

/-- A path settles in a region. -/
def LiesIn (tree : FileTree) (path : Path) (region : Files.Location) : Prop :=
  ∃ place, FileTree.Settles tree (tree.base path) path.parts place ∧
    FileTree.isBelow place region = true

theorem LiesIn.within {before after : FileTree} {path : Path} (lies : LiesIn before path region)
    (within : Within region before after) : LiesIn after path region := by
  obtain ⟨place, settles, inside⟩ := lies
  have from_ : after.base path = before.base path := by
    rw [FileTree.base, FileTree.base, within.start]
  exact ⟨place, from_ ▸ settles.congr within.link_iff, inside⟩

/-- What is written at a path is written where the path settles. -/
theorem written_of_settles {before after : FileTree} {path : Path} {place : Files.Location}
    {content : Bytes} (settles : FileTree.Settles before (before.base path) path.parts place)
    (sound : before.Sound) (proper : path.Proper) (nonempty : path.parts ≠ [])
    (done : before.write path.toString content = .ok after) :
    FileTree.Written before after place content := by
  have shape := Path.parent_child_name nonempty
  rw [← shape] at done
  obtain ⟨_, there, _, again, _, written⟩ :=
    FileTree.exists_written sound proper.parent (proper.name nonempty) done
  have parts : path.parent.parts ++ [path.name] = path.parts := congrArg Path.parts shape
  rw [parts] at again
  obtain rfl : there = place := again.unique settles
  exact written

/-- What is written at a path that settles in a region is written there. -/
theorem LiesIn.written {before after : FileTree} {path : Path} {content : Bytes}
    (lies : LiesIn before path region) (sound : before.Sound) (proper : path.Proper)
    (nonempty : path.parts ≠ []) (done : before.write path.toString content = .ok after) :
    after.Sound ∧ Within region before after := by
  obtain ⟨place, settles, inside⟩ := lies
  have written := written_of_settles settles sound proper nonempty done
  exact ⟨written.sound sound, .of_written written inside⟩

/-! ## Work on files that stays in a region -/

/-- Work on a sound tree stays in a region. -/
abbrev Stays (region : Files.Location) (before after : FileTree) : Prop :=
  before.Sound → after.Sound ∧ Within region before after

instance : IsPreorder FileTree (Stays region) where
  refl tree sound := ⟨sound, refl_of (Within region) tree⟩
  trans _ _ _ first second sound := by
    obtain ⟨soundMiddle, start⟩ := first sound
    obtain ⟨soundLast, further⟩ := second soundMiddle
    exact ⟨soundLast, trans_of (Within region) start further⟩

theorem keeps_createDirectory (raw : String) :
    Keeps (Stays region) (FileWork.createDirectory raw) := by
  refine keeps_of_run fun run sound => ?_
  have grown := FileWork.grown_of_createDirectory run
  exact ⟨grown.sound sound, .of_grown grown⟩

theorem stays_writeFileInParents {before after : FileTree} {path : Path} {content : Bytes}
    {outcome : Outcome Unit} (lies : LiesIn before path region) (proper : path.Proper)
    (nonempty : path.parts ≠ [])
    (run : FileWork.writeFileInParents path.toString content before = (outcome, after)) :
    Stays region before after := by
  intro sound
  rcases bind_cases run with ⟨failure, made, _⟩ | ⟨_, middle, made, run⟩
  · exact (keeps_createDirectory _).run made sound
  · obtain ⟨soundMiddle, within⟩ := (keeps_createDirectory _).run made sound
    rcases FileWork.change_cases run with ⟨_, done⟩ | ⟨rfl, _⟩
    · obtain ⟨soundAfter, written⟩ := (lies.within within).written soundMiddle proper nonempty done
      exact ⟨soundAfter, trans_of (Within region) within written⟩
    · exact ⟨soundMiddle, within⟩

/-! ## Work at a path that settles in a region -/

/-- Between workspaces in the first of which a path settles in a region, only the region changes. -/
def FollowsAt (path : Path) (region : Files.Location) (before after : Workspace) : Prop :=
  LiesIn before.files path region → Follows (Within region) before after

instance (path : Path) : IsPreorder Workspace (FollowsAt path region) where
  refl workspace _ := refl_of (Follows (Within region)) workspace
  trans _ _ _ first second lies healthy := by
    obtain ⟨healthyMiddle, start⟩ := first lies healthy
    obtain ⟨healthyLast, further⟩ := second (lies.within start) healthyMiddle
    exact ⟨healthyLast, trans_of (Within region) start further⟩

theorem Keeps.at_ {α : Type} {path : Path} {work : Work α} (kept : Keeps (Follows (Within region)) work) :
    Keeps (FollowsAt path region) work := fun workspace _ => kept workspace

theorem Keeps.of_at {α : Type} {path : Path} {work : Work α} {before after : Workspace}
    {outcome : Outcome α} (kept : Keeps (FollowsAt path region) work)
    (lies : LiesIn before.files path region) (run : work before = (outcome, after)) :
    Follows (Within region) before after := kept.run run lies

theorem keeps_writeFileInParents {path : Path} (proper : path.Proper) (nonempty : path.parts ≠ [])
    (content : Bytes) :
    Keeps (FollowsAt path region)
      (Work.onFiles (FileWork.writeFileInParents path.toString content)) := by
  refine keeps_of_run fun run lies healthy => ?_
  obtain ⟨files, written, rfl⟩ := Work.onFiles_cases run
  obtain ⟨sound, within⟩ := stays_writeFileInParents lies proper nonempty written healthy.files
  exact ⟨⟨sound, healthy.quiet⟩, within⟩

theorem keeps_createDirectory_work (raw : String) :
    Keeps (Follows (Within region)) (Work.onFiles (FileWork.createDirectory raw)) :=
  Work.keeps_onFiles (keeps_createDirectory raw)

namespace Rebuild

variable {rebuilder : Rebuilder}

/-- A prepared rebuilder, with the place of its staging directory. -/
structure Rooted (rebuilder : Rebuilder) (region : Files.Location) : Prop where
  root : rebuilder.root = some (FileTree.pathOf region)
  named : ∀ part ∈ region, Files.IsName part

/-- The path of an entry below a directory. -/
theorem Rooted.proper (rooted : Rooted rebuilder region) (name : String) :
    ((FileTree.pathOf region).descend (nameParts name)).Proper := by
  refine Path.Proper.descend ⟨.inr (.inl rfl), fun part member => (rooted.named part member).1⟩ ?_
  exact fun part member => Files.isSegment_of_mem_filter member

theorem nameParts_filter (name : String) :
    (nameParts name).filter (fun s => !Files.isIdle s) = nameParts name := by
  rw [nameParts, List.filter_filter]
  simp

theorem descend_nameParts (region : Files.Location) (name : String) :
    ((FileTree.pathOf region).descend (nameParts name)).parts = region ++ nameParts name := by
  rw [Path.descend, nameParts_filter]
  rfl

/-- The path of an entry was seen to settle inside the staging directory. -/
theorem pathFor_ok {name : String} {target : Path} {before after : Workspace}
    (rooted : Rooted rebuilder region)
    (run : rebuilder.pathFor name before = (.ok target, after)) :
    after = before ∧ nameParts name ≠ [] ∧
      target = (FileTree.pathOf region).descend (nameParts name) ∧
      FileTree.hasNul target.toString = false ∧ LiesIn before.files target region := by
  unfold Rebuilder.pathFor at run
  rw [rooted.root] at run
  simp only at run
  split at run
  · cases (throw_error run).1
  next nonempty =>
    split at run
    · cases (throw_error run).1
    next clean =>
      rw [Work.files_bind] at run
      cases resolved : before.files.resolve? ((FileTree.pathOf region).descend (nameParts name)) with
      | none =>
          rw [resolved] at run
          cases (throw_error run).1
      | some place =>
          rw [resolved] at run
          simp only at run
          split at run
          next inside =>
            obtain ⟨same, rfl⟩ := pure_ok run
            obtain rfl := Except.ok.inj same
            exact ⟨rfl, by simpa using nonempty, rfl, by simpa using clean,
              place, FileTree.settles_of_resolve resolved, inside⟩
          next => cases (throw_error run).1

/-- To look where a path leads changes nothing. -/
theorem keeps_pathFor_eq (rebuilder : Rebuilder) (name : String) :
    Keeps (fun before after : Workspace => after = before) (rebuilder.pathFor name) := by
  have : IsPreorder Workspace (fun before after : Workspace => after = before) :=
    { refl := fun _ => rfl, trans := fun _ _ _ first second => second.trans first }
  unfold Rebuilder.pathFor
  split
  · exact keeps_throw _
  · simp only
    split
    · exact keeps_throw _
    split
    · exact keeps_throw _
    · have look : Keeps (fun before after : Workspace => after = before) Work.files :=
        keeps_get.bind fun _ => keeps_pure _
      refine look.bind fun tree => ?_
      split
      · exact keeps_throw _
      · split
        · exact keeps_pure _
        · exact keeps_throw _

theorem pathFor_pure {name : String} {outcome : Outcome Path} {before after : Workspace}
    (run : rebuilder.pathFor name before = (outcome, after)) : after = before :=
  (keeps_pathFor_eq rebuilder name).run run

theorem keeps_pathFor {related : Workspace → Workspace → Prop} [IsPreorder Workspace related]
    (rebuilder : Rebuilder) (name : String) : Keeps related (rebuilder.pathFor name) := by
  refine keeps_of_run fun run => ?_
  obtain rfl := pathFor_pure run
  exact refl_of related _

/-- Remembering an entry changes nothing but what is remembered. -/
theorem record_ok {member : Zip.Member} {isDirectory transformed : Bool} {recorded : Rebuilder}
    (run : rebuilder.record member isDirectory transformed = .ok recorded) :
    rebuilder.staged.lookup (keyOf member.name isDirectory) = none ∧
      recorded = { rebuilder with
        staged := rebuilder.staged ++ [(keyOf member.name isDirectory,
          ⟨member.name, isDirectory, if transformed then none else some member.stamp,
            member.attributes, transformed⟩)] } := by
  unfold Rebuilder.record at run
  simp only at run
  split at run
  · cases run
  next fresh => exact ⟨fresh, (Except.ok.inj run).symm⟩

theorem stageDirectory_ok {member : Zip.Member} {path : Path} {recorded : Rebuilder}
    {before after : Workspace}
    (run : rebuilder.stageDirectory member before = (.ok (path, recorded), after)) :
    rebuilder.pathFor member.name before = (.ok path, before) ∧
      Work.onFiles (FileWork.createDirectory path.toString) before = (.ok (), after) ∧
      rebuilder.record member true false = .ok recorded := by
  obtain ⟨target, middle, placed, further⟩ := bind_ok run
  obtain rfl := pathFor_pure placed
  obtain ⟨_, made, done, kept⟩ := bind_ok further
  obtain ⟨rebuilt, last, remembered, answer⟩ := bind_ok kept
  obtain ⟨rfl, recordedOk⟩ := Work.ofOutcome_cases remembered
  obtain ⟨same, rfl⟩ := pure_ok answer
  obtain ⟨rfl, rfl⟩ := Prod.mk.inj (Except.ok.inj same)
  exact ⟨placed, done, recordedOk.symm⟩

theorem stageCopy_ok {file : Nat} {member : Zip.Member} {path : Path} {recorded : Rebuilder}
    {before after : Workspace}
    (run : rebuilder.stageCopy file member before = (.ok (path, recorded), after)) :
    rebuilder.pathFor member.name before = (.ok path, before) ∧
      (∃ middle, Work.onFiles (FileWork.createDirectory path.parent.toString) before =
          (.ok (), middle) ∧
        Rebuilder.copyEntry file member path.toString middle = (.ok none, after)) ∧
      rebuilder.record member false false = .ok recorded := by
  obtain ⟨target, middle, placed, further⟩ := bind_ok run
  obtain rfl := pathFor_pure placed
  obtain ⟨_, made, done, copying⟩ := bind_ok further
  obtain ⟨failed, copied, copy, kept⟩ := bind_ok copying
  cases failed with
  | some cause =>
      simp only at kept
      split at kept
      · cases (throw_error kept).1
      · cases (throw_error kept).1
  | none =>
      obtain ⟨rebuilt, last, remembered, answer⟩ := bind_ok kept
      obtain ⟨rfl, recordedOk⟩ := Work.ofOutcome_cases remembered
      obtain ⟨same, rfl⟩ := pure_ok answer
      obtain ⟨rfl, rfl⟩ := Prod.mk.inj (Except.ok.inj same)
      exact ⟨placed, ⟨made, done, copy⟩, recordedOk.symm⟩

theorem keeps_stageDirectory (rebuilder : Rebuilder) (member : Zip.Member) :
    Keeps (Follows (Within region)) (rebuilder.stageDirectory member) :=
  (keeps_pathFor rebuilder member.name).bind fun _ => (keeps_createDirectory_work _).bind fun _ =>
    (Work.keeps_ofOutcome _).bind fun _ => keeps_pure _

/-- What is left of a copied entry is in the region, however far the copying came. -/
theorem keeps_copyEntry {path : Path} (proper : path.Proper) (nonempty : path.parts ≠ [])
    (file : Nat) (member : Zip.Member) :
    Keeps (FollowsAt path region) (Rebuilder.copyEntry file member path.toString) := by
  refine keeps_of_run fun {before after outcome} run lies healthy => ?_
  obtain ⟨stop, rfl, copies⟩ := Rebuilder.copies_of_copyEntry run
  cases copies with
  | unread _ => exact refl_of (Follows (Within region)) _ healthy
  | refused _ => exact refl_of (Follows (Within region)) _ healthy
  | emptied _ cleared _ _ =>
      obtain ⟨sound, within⟩ := lies.written healthy.files proper nonempty cleared
      exact ⟨⟨sound, healthy.quiet⟩, within⟩
  | filled _ cleared full _ =>
      obtain ⟨soundEmptied, within⟩ := lies.written healthy.files proper nonempty cleared
      obtain ⟨sound, further⟩ := (lies.within within).written soundEmptied proper nonempty full
      exact ⟨⟨sound, healthy.quiet⟩, trans_of (Within region) within further⟩

theorem keeps_stageCopy (rooted : Rooted rebuilder region) (file : Nat) (member : Zip.Member) :
    Keeps (Follows (Within region)) (rebuilder.stageCopy file member) := by
  refine keeps_of_run fun run => ?_
  rcases bind_cases run with ⟨failure, placed, _⟩ | ⟨path, middle, placed, run⟩
  · exact (keeps_pathFor rebuilder member.name).run placed
  obtain ⟨rfl, nonempty, rfl, _, lies⟩ := pathFor_ok rooted placed
  have below : ((FileTree.pathOf region).descend (nameParts member.name)).parts ≠ [] := by
    rw [descend_nameParts]
    simp [nonempty]
  refine (keeps_createDirectory_work _).at_.bind (fun _ => ?_) |>.of_at lies run
  refine (keeps_copyEntry (rooted.proper member.name) below file member).bind fun failed => ?_
  split
  · split
    · exact keeps_throw _
    · exact keeps_throw _
  · exact (Work.keeps_ofOutcome _).at_.bind fun _ => keeps_pure _

end Rebuild
end ClassLoom
