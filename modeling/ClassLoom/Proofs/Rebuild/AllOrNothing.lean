import ClassLoom.Proofs.Rebuild.Failing
import ClassLoom.Proofs.Rebuild.Ordering
import ClassLoom.Proofs.Rebuild.Surveying
import ClassLoom.Proofs.Rebuild.Unhindered

namespace ClassLoom
namespace Rebuild

/-!
# Writing all or nothing

Where nothing hinders at the name of the copy, what was left there is gone before the copy is opened.  So
the copy is a new file, and a failure that comes later, while the staging directory is gone through, takes
it away again.  Serialization answers with the whole archive in place, or fails with nothing there, and
touches no other name.

What the staging directory holds by then does not matter for this.  If there are no links in it or on the
way to it, and the archive is written, it holds every staged entry where that has been staged, once, in the
order of the paths.
-/

open Files (FileTree FileWork Path IsName)

variable {rebuilder : Rebuilder} {path root : Path} {name : String} {directory region : Files.Location}
  {names : List String} {tree other : FileTree} {before after : Workspace} {manifest : Option Manifest}

/-! ## What is written -/

/-- What is written for a staged entry is made of what is at its place. -/
inductive Taken (rebuilder : Rebuilder) (tree : FileTree) (region : Files.Location) :
    String × Zip.Record → Prop
  | directory {names : List String} {entry : StagedEntry} {record : Zip.Record} (clock : Files.Moment) :
      rebuilder.staged.lookup (keyAt names true) = some entry →
      tree.at? (region ++ names) = some .directory →
      entry.directoryRecord clock = .ok record →
      Taken rebuilder tree region (keyAt names true, record)
  | file {names : List String} {entry : StagedEntry} {record : Zip.Record} (file : Files.File) :
      rebuilder.staged.lookup (keyAt names false) = some entry →
      tree.at? (region ++ names) = some (.file file) →
      entry.fileRecord file = .ok record →
      Taken rebuilder tree region (keyAt names false, record)

/-- Every staged entry, once, in the order of the paths, each made of what is at its place. -/
structure Packed (rebuilder : Rebuilder) (tree : FileTree) (region : Files.Location) (written : Written) :
    Prop where
  keys : (written.map Prod.fst).Perm (rebuilder.staged.map Prod.fst)
  ordered : written.Pairwise fun first second => nameParts first.1 < nameParts second.1
  taken : ∀ item ∈ written, Taken rebuilder tree region item

theorem Packed.of_same {written : Written} (packed : Packed rebuilder tree region written)
    (same : SameAt tree region other region) : Packed rebuilder other region written := by
  refine ⟨packed.keys, packed.ordered, fun item among => ?_⟩
  cases packed.taken item among with
  | directory clock known held made => exact .directory clock known ((same _).trans held) made
  | file file known held made => exact .file file known ((same _).trans held) made

/-- A place with no link in it or on the way to it. -/
def Direct (tree : FileTree) (region : Files.Location) : Prop :=
  ∀ place, FileTree.isBelow place region = true ∨ FileTree.isBelow region place = true →
    ∀ target, tree.at? place ≠ some (.link target)

theorem Direct.of_same (direct : Direct tree region)
    (same : ∀ {place : Files.Location}, FileTree.isBelow place region = true ∨
      FileTree.isBelow region place = true → other.at? place = tree.at? place) : Direct other region :=
  fun place near target held => direct place near target ((same near).symm.trans held)

/-- What is found at the path of a place is there. -/
theorem Direct.at?_of_stat (direct : Direct tree region) (sound : tree.Sound)
    (named : ∀ part ∈ region ++ names, IsName part) {place : Files.Location} {entry : Files.Entry}
    (found : tree.stat true (under (FileTree.pathOf region) names).toString = .ok (place, entry)) :
    tree.at? (region ++ names) = some entry := by
  have top : tree.Reaches (FileTree.pathOf []) [] := ⟨_, .done⟩
  have whole : under (FileTree.pathOf []) (region ++ names) = under (FileTree.pathOf region) names := rfl
  have proper : (under (FileTree.pathOf []) (region ++ names)).Proper :=
    proper_under (by simp) named
  refine top.at?_of_stat sound rfl proper named (fun front start target => ?_) (whole ▸ found)
  rcases List.prefix_or_prefix_of_prefix start (List.prefix_append region names) with above | inside
  · exact direct _ (.inr (FileTree.isBelow_iff.2 above)) target
  · exact direct _ (.inl (FileTree.isBelow_iff.2 inside)) target

/-- What is done under another name changes nothing at a place that is not below it. -/
theorem SparesOthers.near (spares : SparesOthers directory [name] tree other)
    (apart : ∀ rest, FileTree.isBelow (region ++ rest) (directory ++ [name]) = false)
    {place : Files.Location}
    (near : FileTree.isBelow place region = true ∨ FileTree.isBelow region place = true) :
    other.at? place = tree.at? place := by
  refine spares.places fun touched among => ?_
  rw [List.mem_singleton.1 among]
  rcases near with below | above
  · obtain ⟨rest, rfl⟩ := FileTree.exists_append_of_isBelow below
    exact apart rest
  · -- The region would be below the name with what is on the way to it.
    by_contra inside
    have whole := apart []
    rw [List.append_nil, FileTree.isBelow_trans above (by simpa using inside)] at whole
    cases whole

theorem Clear.direct (clear : Clear tree region) (sound : tree.Sound) : Direct tree region := by
  rintro place (below | above) target held
  · exact clear.plain below held
  · by_cases here : region = place
    · rw [← here, clear.alive] at held
      cases held
    · rw [sound.at?_above clear.alive above here] at held
      cases held

theorem taken_of_found (direct : Direct tree region) (sound : tree.Sound)
    (named : ∀ part ∈ region ++ names, IsName part) {item : String × Zip.Record}
    (found : Found rebuilder tree (FileTree.pathOf region) names item) :
    Taken rebuilder tree region item := by
  cases found with
  | directory known seen made =>
      obtain ⟨place, entry, found, kind⟩ := FileTree.test_eq_true seen
      have held := direct.at?_of_stat sound named found
      cases entry with
      | directory => exact .directory _ known held made
      | file file => cases kind
      | link target => cases kind
  | file known opened made =>
      unfold FileTree.openFile at opened
      split at opened
      next seen =>
        obtain ⟨_, rfl⟩ := Prod.mk.inj (Except.ok.inj opened)
        exact .file _ known (direct.at?_of_stat sound named seen) made
      next => cases opened
      next => cases opened

theorem packed_of_archiveBytes (rooted : Rooted rebuilder region)
    (once : (rebuilder.staged.map Prod.fst).Nodup) (direct : Direct before.files region)
    (healthy : before.Healthy) {bytes : Bytes}
    (run : rebuilder.archiveBytes (FileTree.pathOf region) manifest before = (.ok bytes, after)) :
    ∃ written, Packed rebuilder before.files region written ∧
      bytes = Zip.encode ((manifest.map Manifest.record).toList ++ written.map (·.2)) [] := by
  obtain ⟨written, middle, collected, complete, whole⟩ := collect_of_archiveBytes run
  obtain ⟨finds, ordered⟩ := ordered_of_collect healthy collected
  refine ⟨written, ⟨keys_perm once finds complete, ordered, fun item among => ?_⟩, whole⟩
  obtain ⟨_, rfl, _, found⟩ := finds
  obtain ⟨names, _, _, named, found⟩ := found item among
  refine taken_of_found direct healthy.files (fun part member => ?_) found
  rcases List.mem_append.1 member with above | below
  · exact rooted.named part above
  · exact named part below

/-! ## Putting the copy and taking it away -/

theorem putCopy_run {content : Bytes} {files : FileTree}
    (done : before.files.write rebuilder.paths.copy.toString content = .ok files) :
    rebuilder.putCopy content before = (.ok (), { before with files }) := by
  refine Work.onFiles_of_run ?_
  rw [get_bind, done]
  rfl

theorem ordinary_of_foreseen {failure : Failure} (foreseen : failure.Foreseen) :
    failure.isOrdinary = true := by
  cases foreseen with
  | own same _ _ => cases failure <;> simp_all [Failure.kind?, Failure.isOrdinary]
  | fault _ => rfl

namespace Unhindered

variable (unhindered : Unhindered rebuilder path name directory ["copy-" ++ name] before)

include unhindered

/-- A copy that has been opened can be taken away. -/
theorem discardCopy_run {state : Workspace} (healthy : state.Healthy)
    (spares : SparesOthers directory ["copy-" ++ name] before.files state.files) {file : Files.File}
    (held : state.files.at? (directory ++ ["copy-" ++ name]) = some (.file file)) :
    ∃ last, rebuilder.discardCopy state = (.ok (), last) ∧ last.Healthy ∧
      SparesOthers directory ["copy-" ++ name] before.files last.files ∧
      EmptyAt last.files (directory ++ ["copy-" ++ name]) := by
  obtain ⟨named, askable⟩ := unhindered.copy
  obtain ⟨reaches, _⟩ := unhindered.open_of_spares spares
  obtain ⟨files, deletes, gone⟩ := FileWork.deleteTree_run reaches healthy.files (fun same => by cases same)
    unhindered.paths.proper named askable held rfl
  rw [← unhindered.paths.copy] at deletes
  have discards : rebuilder.discardCopy state = (.ok (), { state with files }) := by
    rw [Rebuilder.discardCopy, Work.attempt_run (Work.onFiles_of_run deletes)]
    rfl
  obtain ⟨healthyLast, eroded⟩ := eroded_of_discardCopy unhindered.paths.copy unhindered.paths.proper named
    (.inl reaches) healthy discards
  exact ⟨_, discards, healthyLast, spares.trans (.of_eroded eroded), .of_absent healthyLast.files gone⟩

/-- Serialization goes through the staging directory in a state in which only the name of the copy is
touched, and ends with the copy in place or with nothing there. -/
theorem serialize_ends (prepared : rebuilder.root = some root) {outcome : Outcome Path}
    (run : rebuilder.serialize manifest before = (outcome, after)) :
    after.Healthy ∧ SparesOthers directory ["copy-" ++ name] before.files after.files ∧
      ∃ opened last result, opened.Healthy ∧
        SparesOthers directory ["copy-" ++ name] before.files opened.files ∧
        rebuilder.archiveBytes root manifest opened = (result, last) ∧
        ((outcome = .ok rebuilder.paths.copy ∧ ∃ file, result = .ok file.content ∧
            after.files.at? (directory ++ ["copy-" ++ name]) = some (.file file)) ∨
          (∃ failure, outcome = .error failure) ∧ (∃ failure, result = .error failure) ∧
            EmptyAt after.files (directory ++ ["copy-" ++ name])) := by
  have paths := unhindered.paths
  obtain ⟨named, askable⟩ := unhindered.copy
  obtain ⟨cleared, clears, healthy, spares, empty⟩ := unhindered.discarded_run List.mem_cons_self
    unhindered.copy "Removing leftover copy: " .cannotDeleteCopy
  rw [← paths.copy] at clears
  obtain ⟨reaches, alive⟩ := unhindered.open_of_spares spares
  obtain ⟨files, opens, written⟩ :=
    reaches.exists_write healthy.files alive paths.proper named askable (.inl empty.here) []
  obtain ⟨id, held⟩ := written.at?_self
  have sparesOpened := spares.trans (.of_written written)
  have healthyOpened : Workspace.Healthy { cleared with files } := ⟨written.sound healthy.files, healthy.quiet⟩
  rw [← paths.copy] at opens
  rcases stage : rebuilder.archiveBytes root manifest { cleared with files } with ⟨result, collected⟩
  obtain ⟨healthyCollected, same⟩ : collected.Healthy ∧ collected.files = files :=
    (keeps_archiveBytes rebuilder root manifest).still healthyOpened stage
  rw [Rebuilder.serialize, prepared] at run
  simp only at run
  rw [bind_of_ok (show rebuilder.discardLeftover before = (.ok (), cleared) from clears)] at run
  cases result with
  | ok bytes =>
      obtain ⟨filled, fills, full⟩ := (reaches.mono written.carries written.start).exists_write
        healthyOpened.files (written.carries alive rfl) paths.proper named askable (.inr ⟨_, held⟩) bytes
      obtain ⟨last, there⟩ := full.at?_self
      rw [← paths.copy, ← same] at fills
      have puts : rebuilder.writeCopy root manifest cleared = (.ok (), { collected with files := filled }) := by
        rw [Rebuilder.writeCopy, bind_of_ok (putCopy_run opens), bind_of_ok stage]
        exact putCopy_run fills
      rw [Work.attempt_run puts] at run
      obtain ⟨rfl, rfl⟩ := pure_ok run
      exact ⟨⟨full.sound healthyOpened.files, healthyCollected.quiet⟩, sparesOpened.trans (.of_written full),
        _, _, _, healthyOpened, sparesOpened, stage, .inl ⟨rfl, _, rfl, there⟩⟩
  | error failure =>
      have fails : rebuilder.writeCopy root manifest cleared = (.error failure, collected) := by
        rw [Rebuilder.writeCopy, bind_of_ok (putCopy_run opens)]
        exact bind_of_error stage
      have ordinary := ordinary_of_foreseen (rebuilder.failsAs_archiveBytes root manifest stage)
      obtain ⟨last, discards, healthyLast, sparesLast, gone⟩ := unhindered.discardCopy_run healthyCollected
        (same ▸ sparesOpened) (same ▸ held)
      rw [Work.attempt_run fails] at run
      simp only [ordinary, Bool.not_true, Bool.false_eq_true, if_false] at run
      rw [bind_of_ok discards] at run
      obtain ⟨rfl, rfl⟩ := throw_error run
      exact ⟨healthyLast, sparesLast, _, _, _, healthyOpened, sparesOpened, stage,
        .inr ⟨⟨_, rfl⟩, ⟨_, rfl⟩, gone⟩⟩

/-- Serialization answers with the whole archive at the path of the copy, or fails with nothing there. -/
theorem all_or_nothing_of_serialize (rooted : Rooted rebuilder region)
    (once : (rebuilder.staged.map Prod.fst).Nodup) (direct : Direct before.files region)
    (apart : ∀ rest, FileTree.isBelow (region ++ rest) (directory ++ ["copy-" ++ name]) = false)
    {outcome : Outcome Path} (run : rebuilder.serialize manifest before = (outcome, after)) :
    after.Healthy ∧ SparesOthers directory ["copy-" ++ name] before.files after.files ∧
      ((outcome = .ok rebuilder.paths.copy ∧ ∃ file written,
          after.files.at? (directory ++ ["copy-" ++ name]) = some (.file file) ∧
          Packed rebuilder before.files region written ∧
          file.content = Zip.encode ((manifest.map Manifest.record).toList ++ written.map (·.2)) []) ∨
        (∃ failure, outcome = .error failure) ∧
          EmptyAt after.files (directory ++ ["copy-" ++ name])) := by
  obtain ⟨healthy, spares, opened, last, result, healthyOpened, sparesOpened, collected,
    ⟨answered, file, rfl, there⟩ | ⟨failed, _, gone⟩⟩ := unhindered.serialize_ends rooted.root run
  · have same : ∀ {place : Files.Location},
        FileTree.isBelow place region = true ∨ FileTree.isBelow region place = true →
        opened.files.at? place = before.files.at? place := fun near => sparesOpened.near apart near
    obtain ⟨written, packed, whole⟩ :=
      packed_of_archiveBytes rooted once (direct.of_same same) healthyOpened collected
    refine ⟨healthy, spares, .inl ⟨answered, file, written, there, packed.of_same fun rest => ?_, whole⟩⟩
    exact (same (.inl (FileTree.isBelow_append _ _))).symm
  · exact ⟨healthy, spares, .inr ⟨failed, gone⟩⟩

/-- Where everything that has been staged is found, the archive is written. -/
theorem serialize_run (rooted : Rooted rebuilder region) (furnished : Furnished rebuilder before.files region)
    (apart : ∀ rest, FileTree.isBelow (region ++ rest) (directory ++ ["copy-" ++ name]) = false)
    (manifest : Option Manifest) :
    ∃ after, rebuilder.serialize manifest before = (.ok rebuilder.paths.copy, after) := by
  rcases run : rebuilder.serialize manifest before with ⟨outcome, after⟩
  obtain ⟨_, _, opened, last, result, healthyOpened, sparesOpened, collected,
    ⟨rfl, _⟩ | ⟨_, ⟨failure, rfl⟩, _⟩⟩ := unhindered.serialize_ends rooted.root run
  · exact ⟨after, rfl⟩
  · have furnishedOpened := furnished.of_same healthyOpened.files fun names =>
      sparesOpened.near apart (.inl (FileTree.isBelow_append region names))
    obtain ⟨bytes, _, collects, _⟩ := furnishedOpened.archiveBytes_run healthyOpened.quiet manifest
    cases (Prod.mk.inj (collects.symm.trans collected)).1

end Unhindered

end Rebuild
end ClassLoom
