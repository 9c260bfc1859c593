import ClassLoom.Proofs.Files.Copying
import ClassLoom.Proofs.Rebuild.Keys
import ClassLoom.Proofs.Rebuild.Region

namespace ClassLoom
namespace Rebuild

/-!
# Where staged entries are

Without links in the staging directory, an entry is where its path spells it: what is written for it
is there, and what is found at its path is that.  So entries with different paths do not disturb each
other.
-/

open Files (FileTree FileWork Path IsName IsSegment)

variable {region : Files.Location} {names : List String} {tree before after : FileTree}

/-- A directory in which there are no links. -/
structure Clear (tree : FileTree) (region : Files.Location) : Prop where
  alive : tree.at? region = some .directory
  plain : ∀ {place : Files.Location} {target : String}, FileTree.isBelow place region = true →
    tree.at? place ≠ some (.link target)

theorem Clear.within {other : Files.Location} (clear : Clear before region)
    (within : Within other before after) : Clear after region :=
  ⟨within.carries clear.alive rfl, fun below held => clear.plain below (within.links held)⟩

/-! ## Settling -/

section Under

variable {place : Files.Location}

theorem proper_under (named : ∀ name ∈ region, IsName name) (below : ∀ name ∈ names, IsName name) :
    (under (FileTree.pathOf region) names).Proper := by
  refine ⟨.inr (.inl rfl), fun part member => ?_⟩
  rcases List.mem_append.1 member with above | later
  · exact (named part above).1
  · exact (below part later).1

/-- Names below a directory without links settle below it. -/
theorem settles_under (sound : tree.Sound) (clear : Clear tree region)
    (below : ∀ name ∈ names, IsName name) :
    FileTree.Settles tree (tree.base (under (FileTree.pathOf region) names))
      (under (FileTree.pathOf region) names).parts (region ++ names) := by
  have top : tree.base (under (FileTree.pathOf region) names) = [] := if_neg (by decide : ¬"/" = "")
  have named : ∀ name ∈ region ++ names, IsName name := by
    intro name member
    rcases List.mem_append.1 member with above | later
    · exact sound.named clear.alive name above
    · exact below name later
  rw [top]
  refine FileTree.Settles.straight named fun front whole target held => ?_
  rw [List.nil_append] at held
  rcases List.prefix_or_prefix_of_prefix whole (List.prefix_append region names) with above | inside
  · -- Above the directory there are only directories.
    by_cases same : region = front
    · rw [← same, clear.alive] at held
      cases held
    · have directory := sound.at?_above clear.alive (FileTree.isBelow_iff.2 above) same
      rw [directory] at held
      cases held
  · exact clear.plain (FileTree.isBelow_iff.2 inside) held

section Names

variable {root : Path}

/-- The last of the names is looked for in the directory that the others lead to. -/
theorem child_dropLast_under (nonempty : names ≠ []) :
    (under root names.dropLast).child (names.getLast nonempty) = under root names := by
  rw [child_under, List.dropLast_append_getLast nonempty]

end Names

/-- A directory that has been made at some names is found there. -/
theorem stat_of_createDirectory_under (named : ∀ name ∈ region, IsName name) (nonempty : names ≠ [])
    (below : ∀ name ∈ names, IsName name)
    (made : FileWork.createDirectory (under (FileTree.pathOf region) names).toString tree =
      (.ok (), after)) :
    ∃ place, after.stat true (under (FileTree.pathOf region) names).toString =
      .ok (place, .directory) := by
  have proper := proper_under named fun name member => below name (List.dropLast_subset names member)
  rw [← child_dropLast_under nonempty] at made ⊢
  exact FileWork.stat_of_createDirectory proper (below _ (List.getLast_mem nonempty)) made

/-- A file that has been written at some names has been looked for there. -/
theorem find_of_write_under (sound : tree.Sound) (named : ∀ name ∈ region, IsName name)
    (nonempty : names ≠ []) (below : ∀ name ∈ names, IsName name) {content : Bytes}
    (done : tree.write (under (FileTree.pathOf region) names).toString content = .ok after) :
    ∃ spot, tree.find true (under (FileTree.pathOf region) names).toString = .ok spot := by
  have proper := proper_under named fun name member => below name (List.dropLast_subset names member)
  rw [← child_dropLast_under nonempty] at done ⊢
  obtain ⟨spot, _, found, _⟩ :=
    FileTree.exists_written sound proper (below _ (List.getLast_mem nonempty)).1 done
  exact ⟨spot, found⟩

theorem at?_of_stat_under (sound : tree.Sound) (clear : Clear tree region) (nonempty : names ≠ [])
    (below : ∀ name ∈ names, IsName name) {entry : Files.Entry}
    (seen : tree.stat true (under (FileTree.pathOf region) names).toString = .ok (place, entry)) :
    place = region ++ names ∧ tree.at? (region ++ names) = some entry := by
  have above := fun name member => below name (List.dropLast_subset names member)
  have proper := proper_under (sound.named clear.alive) above
  have named := below _ (List.getLast_mem nonempty)
  have settled := settles_under sound clear below
  obtain ⟨_, found⟩ := FileTree.stat_eq_ok_iff.1 seen
  rw [← child_dropLast_under nonempty] at found settled
  obtain ⟨there, settles, sighted⟩ := FileTree.settles_of_find sound proper named found
  obtain rfl : there = region ++ names := settles.unique settled
  cases sighted with
  | found held _ => exact ⟨rfl, held⟩

theorem written_under (sound : tree.Sound) (clear : Clear tree region) (nonempty : names ≠ [])
    (below : ∀ name ∈ names, IsName name) {content : Bytes}
    (done : tree.write (under (FileTree.pathOf region) names).toString content = .ok after) :
    FileTree.Written tree after (region ++ names) content := by
  have above := fun name member => below name (List.dropLast_subset names member)
  have proper := proper_under (sound.named clear.alive) above
  have settled := settles_under sound clear below
  rw [← child_dropLast_under nonempty] at done settled
  obtain ⟨_, there, _, settles, _, written⟩ :=
    FileTree.exists_written sound proper (below _ (List.getLast_mem nonempty)).1 done
  obtain rfl : there = region ++ names := settles.unique settled
  exact written

/-- What has been written can be written again. -/
theorem exists_write_again (sound : tree.Sound) (clear : Clear tree region) (nonempty : names ≠ [])
    (below : ∀ name ∈ names, IsName name) {content : Bytes}
    (done : tree.write (under (FileTree.pathOf region) names).toString content = .ok after)
    (other : Bytes) :
    ∃ last, after.write (under (FileTree.pathOf region) names).toString other = .ok last := by
  have above := fun name member => below name (List.dropLast_subset names member)
  have proper := proper_under (sound.named clear.alive) above
  have named := below _ (List.getLast_mem nonempty)
  have written := written_under sound clear nonempty below done
  obtain ⟨id, held⟩ := written.at?_self
  have clean : FileTree.hasNul (under (FileTree.pathOf region) names).toString = false := by
    unfold FileTree.write at done
    split at done
    · cases done
    next clean => simpa using clean
  have ending := Path.not_endsWith_slash_child proper named.1
  rw [← child_dropLast_under nonempty] at done clean ⊢
  obtain ⟨_, _, found, _⟩ := FileTree.exists_written sound proper named.1 done
  obtain ⟨directory, reaches, fits⟩ := FileTree.exists_reaches proper named found
  obtain rfl : directory = region ++ names.dropLast := by
    obtain ⟨_, leads⟩ := reaches
    exact leads.settles.unique (settles_under sound clear above)
  have again := (reaches.mono written.carries written.start).find_of_plain true proper named fits
    (by rw [List.append_assoc, List.dropLast_append_getLast nonempty]; exact held) rfl
  unfold FileTree.write
  rw [if_neg (by simp [clean]), if_neg (by simp [ending]), again]
  exact ⟨_, rfl⟩

end Under

/-! ## Laying files -/

/-- A change that gives a place a file and keeps what is elsewhere. -/
structure Lays (before after : FileTree) (place : Files.Location) (content : Bytes) : Prop where
  here : ∃ file, after.at? place = some (.file file) ∧ file.content = content
  bare : before.at? place ≠ some .directory
  kept : ∀ {other : Files.Location} {entry : Files.Entry}, other ≠ place →
    before.at? other = some entry → after.at? other = some entry

theorem Lays.of_written {middle : FileTree} {place : Files.Location} {content : Bytes}
    (kept : ∀ {other : Files.Location} {entry : Files.Entry},
      before.at? other = some entry → middle.at? other = some entry)
    (written : FileTree.Written middle after place content) : Lays before after place content := by
  obtain ⟨id, held⟩ := written.at?_self
  refine ⟨⟨_, held, rfl⟩, fun directory => ?_, fun away there => ?_⟩
  · rcases written.bare with absent | ⟨file, there⟩
    · rw [kept directory] at absent
      cases absent
    · rw [kept directory] at there
      cases there
  · rw [written.at?_of_ne away, kept there]

theorem Lays.again {middle : FileTree} {place : Files.Location} {old content : Bytes}
    (lays : Lays before middle place old) (written : FileTree.Written middle after place content) :
    Lays before after place content := by
  obtain ⟨id, held⟩ := written.at?_self
  exact ⟨⟨_, held, rfl⟩, lays.bare,
    fun away there => (written.at?_of_ne away).trans (lays.kept away there)⟩

/-! ## Copied content -/

/-- The parts of an entry that is read to its end are its content. -/
theorem read_of_readParts {member : Zip.Member} {width : Nat} {bytes : Bytes} {parts : List Bytes}
    (positive : 0 < width) (done : member.readParts width bytes = .ok (parts, none)) :
    member.read bytes = .ok (Files.copyStream parts []).2 := by
  unfold Zip.Member.readParts at done
  unfold Zip.Member.read
  cases located : member.locate bytes with
  | error error =>
      rw [located] at done
      cases done
  | ok packed =>
      rw [located] at done
      rcases unpacked : member.unpack packed with ⟨data, stop⟩
      simp only [bind, Except.bind, unpacked] at done ⊢
      cases stop with
      | some error => cases done
      | none =>
          obtain ⟨rfl, _⟩ := Prod.mk.inj (Except.ok.inj done)
          rw [Files.copyStream_eq, Files.flatten_chunks positive (by omega)]
          rfl

/-! ## Staging one entry -/

section Staging

variable {before after : Workspace}

theorem directory_of_createDirectory (healthy : before.Healthy) (clear : Clear before.files region)
    (nonempty : names ≠ []) (below : ∀ name ∈ names, IsName name)
    (run : Work.onFiles (FileWork.createDirectory (under (FileTree.pathOf region) names).toString)
      before = (.ok (), after)) :
    FileTree.Grown before.files after.files ∧
      after.files.at? (region ++ names) = some .directory := by
  obtain ⟨files, made, rfl⟩ := Work.onFiles_cases run
  have grown := FileWork.grown_of_createDirectory made
  obtain ⟨place, seen⟩ :=
    stat_of_createDirectory_under (healthy.files.named clear.alive) nonempty below made
  exact ⟨grown, (at?_of_stat_under (grown.sound healthy.files)
    (clear.within (@Within.of_grown region _ _ grown)) nonempty below seen).2⟩

theorem lays_of_writeFileInParents (healthy : before.Healthy) (clear : Clear before.files region)
    (nonempty : names ≠ []) (below : ∀ name ∈ names, IsName name) {content : Bytes}
    (run : Work.onFiles (FileWork.writeFileInParents (under (FileTree.pathOf region) names).toString
      content) before = (.ok (), after)) :
    Lays before.files after.files (region ++ names) content := by
  obtain ⟨files, written, rfl⟩ := Work.onFiles_cases run
  obtain ⟨_, middle, made, writing⟩ := bind_ok written
  have grown := FileWork.grown_of_createDirectory made
  rcases FileWork.change_cases writing with ⟨_, done⟩ | ⟨_, _, _, failed⟩
  · exact .of_written grown.at?_of_some (written_under (grown.sound healthy.files)
      (clear.within (@Within.of_grown region _ _ grown)) nonempty below done)
  · cases failed

theorem copyEntry_ok (healthy : before.Healthy) (clear : Clear before.files region)
    (nonempty : names ≠ []) (below : ∀ name ∈ names, IsName name) {file : Nat} {member : Zip.Member}
    (run : Rebuilder.copyEntry file member (under (FileTree.pathOf region) names).toString before =
      (.ok none, after)) :
    ∃ content, member.read ((before.files.contentOf file).getD []) = .ok content ∧
      Lays before.files after.files (region ++ names) content := by
  obtain ⟨stop, same, copies⟩ := Rebuilder.copies_of_copyEntry run
  obtain rfl := Except.ok.inj same
  cases copies with
  | @emptied parts _ _ _ _ _ cleared stuck _ =>
      obtain ⟨_, full⟩ := exists_write_again healthy.files clear nonempty below cleared
        (Files.copyStream parts []).2
      rw [stuck] at full
      cases full
  | @filled parts _ _ emptied _ parted cleared full whole =>
      have first := written_under healthy.files clear nonempty below cleared
      have within : Within region before.files emptied :=
        .of_written first (FileTree.isBelow_append region names)
      have second := written_under (first.sound healthy.files) (clear.within within) nonempty below full
      obtain rfl := Option.map_eq_none_iff.1 whole
      exact ⟨_, read_of_readParts (by decide) parted, (Lays.of_written id first).again second⟩

end Staging

end Rebuild
end ClassLoom
