import ClassLoom.Proofs.Run.Directory
import ClassLoom.Proofs.Run.Renewing

namespace ClassLoom
namespace Run

/-!
# A directory and its archive

A run over a directory and a run over an archive of the same files enumerate, name and read their classes
differently.  Where both find the same classes, they make the same calls, each in its own order.  So both
succeed or both fail, and if they succeed, the new archive has for each file the content that the file has.

A run stops at the first call that stops it.  Since the orders differ, the two may then have made
different calls.
-/

open Files (FileTree Path)
open Rebuild (under)

variable {host : Host} {plan : Plan} {respond : String → Bytes → Outcome Config.Value}
  {note : String → Bytes → String} {tree : FileTree} {root : Path} {top : Files.Location}
  {names : List String} {file : Files.File}

/-! ## What is left of a file -/

/-- What is left of a class is the output for it, or its content if there is no output but an empty one. -/
theorem settled_eq (className : String) (content : Bytes) :
    (∃ out, respond className content = .ok (.octets out) ∧ out ≠ [] ∧
      settled respond className content = out) ∨
    (∀ out, respond className content = .ok (.octets out) → out = []) ∧
      settled respond className content = content := by
  rw [settled]
  split
  next out responded =>
    by_cases empty : out = []
    · rw [if_pos empty]
      exact .inr ⟨fun other same => by rw [responded] at same; cases same; exact empty, rfl⟩
    · rw [if_neg empty]
      exact .inl ⟨out, responded, empty, rfl⟩
  next other => exact .inr ⟨fun out responded => absurd responded (other out), rfl⟩

/-- A run over a directory that has visited all classes leaves of each file what its call has settled. -/
theorem Progressed.left {workspace : Workspace} {printed : String} {found : List Candidate}
    (progressed : Progressed respond note .everything tree root top printed found workspace)
    (enumerates : Enumerates tree root top (fun _ => True) found) (common : Common names)
    (nonempty : names ≠ []) (segments : ∀ name ∈ names, Files.IsSegment name)
    (held : tree.at? (top ++ names) = some (.file file)) :
    ∃ left : Files.File, workspace.files.at? (top ++ names) = some (.file left) ∧
      left.content = outcomeAt respond names file.content := by
  have called := common.of?_eq nonempty segments (under root names)
  have undue : (∀ {candidate : Candidate} {out : Bytes},
      ¬Due respond .everything tree root top names candidate out) →
      workspace.files.at? (top ++ names) = some (.file file) := fun none =>
    (progressed.kept fun _ due same => none (List.append_cancel_left same ▸ due)).trans held
  rw [outcomeAt]
  split
  next isClass =>
    rw [if_pos isClass] at called
    have classFile : IsClassFile tree root top names file _ := ⟨held, called⟩
    rcases @settled_eq respond (classOfResource ("/".intercalate names)) file.content with
      ⟨out, responded, some, same⟩ | ⟨none, same⟩
    · obtain ⟨left, there, content, _⟩ := progressed.written
        ((enumerates.mem _).2 ⟨names, file, trivial, classFile⟩) ⟨⟨file, classFile, responded⟩, rfl, some⟩
      exact ⟨left, there, content.trans same.symm⟩
    · refine ⟨file, undue fun due => ?_, same.symm⟩
      obtain ⟨twin, twinFile, responded⟩ := due.exists_file
      obtain rfl := classFile.candidate_unique twinFile
      obtain ⟨_, rfl⟩ := classFile.unique twinFile
      exact due.nonempty (none _ responded)
  next isPlain =>
    rw [if_neg isPlain] at called
    refine ⟨file, undue fun due => ?_, rfl⟩
    obtain ⟨_, twinFile, _⟩ := due.exists_file
    rw [twinFile.called] at called
    cases called

/-! ## Two runs -/

/-- An archive whose entries read as the files below a directory has them for its entries. -/
theorem bundles_of_read {archive : Zip.Archive} {bytes : Bytes} {files : List (List String × Files.File)}
    (sound : tree.Sound) (alive : tree.at? top = some .directory)
    (holds : ∀ {names file}, tree.at? (top ++ names) = some (.file file) ↔ (names, file) ∈ files)
    (once : (files.map fun item => "/".intercalate item.1).Nodup)
    (reads : archive.members.map (fun member => (member.name, (member.read bytes).toOption)) =
      files.map fun item => ("/".intercalate item.1, some item.2.content)) :
    Bundles tree top archive bytes := by
  have entry : ∀ {names file} {member : Zip.Member}, (names, file) ∈ files →
      (member.name, (member.read bytes).toOption) = ("/".intercalate names, some file.content) →
      IsEntry tree top bytes names file member := by
    intro names file member among same
    obtain ⟨name, content⟩ := Prod.mk.inj same
    refine ⟨holds.2 among, name, ?_⟩
    cases read : member.read bytes with
    | error error =>
        rw [read] at content
        cases content
    | ok found =>
        rw [read] at content
        rw [Option.some.inj content]
  refine ⟨sound, alive, ?_, fun {names file} held => ?_, fun member among => ?_⟩
  · have names := congrArg (List.map Prod.fst) reads
    rw [List.map_map, List.map_map] at names
    exact names ▸ once
  · have among := holds.1 held
    have listed := List.mem_map_of_mem (f := fun item : List String × Files.File =>
      ("/".intercalate item.1, some item.2.content)) among
    rw [← reads] at listed
    obtain ⟨member, here, same⟩ := List.mem_map.1 listed
    exact ⟨member, here, entry among same⟩
  · have listed := List.mem_map_of_mem (f := fun member : Zip.Member =>
      (member.name, (member.read bytes).toOption)) among
    rw [reads] at listed
    obtain ⟨⟨names, file⟩, here, same⟩ := List.mem_map.1 listed
    exact ⟨names, file, entry here same.symm⟩

theorem exists_of_isSome {ε α : Type} {outcome : Except ε α} (succeeds : outcome.toOption.isSome = true) :
    ∃ value, outcome = .ok value := by
  cases outcome with
  | ok value => exact ⟨value, rfl⟩
  | error failure => cases succeeds

/-- What is below a directory, by the entries of a tree. -/
theorem below_iff (sound : tree.Sound) (name : String) {entry : Files.Entry} :
    tree.at? ([name] ++ names) = some entry ↔ (name :: names, entry) ∈ tree.entries := by
  rw [sound.mem_entries_iff]
  simp

/-- A file system with nothing but an archive. -/
def jarTree (content : Bytes) : FileTree :=
  { (⟨[], [], 0, [], 1000000000000000000⟩ : FileTree).put ["x.jar"]
      (.file { id := 0, content, modified := 1000000000000000000 }) with nextId := 1 }

theorem sound_jarTree (content : Bytes) : (jarTree content).Sound :=
  @FileTree.Sound.put_newFile _ [] "x.jar" (FileTree.Sound.bare _) rfl (by decide)
    (by decide) content 1000000000000000000

/-- A directory with a file that is a class for a run over a directory only. -/
def singleTree : FileTree :=
  let top : FileTree := ⟨[], [], 0, [], 1000000000000000000⟩
  let directories := (top.put ["w"] .directory).put ["w", "p"] .directory
  { directories.put ["w", "p", "class"] (.file ⟨0, [1], top.clock⟩) with nextId := 1 }

theorem sound_singleTree : singleTree.Sound := by
  have top : ((⟨[], [], 0, [], 1000000000000000000⟩ : FileTree).put ([] ++ ["w"]) .directory).Sound :=
    (FileTree.Sound.bare _).put_directory rfl (by decide)
  have below := @FileTree.Sound.put_directory _ ["w"] "p" top (by decide) (by decide)
  exact @FileTree.Sound.put_newFile _ ["w", "p"] "class" below (by decide) (by decide)
    (by decide) [1] 1000000000000000000

/-- An archive with that file. -/
def singleArchive : Bytes :=
  Zip.encode [.ofContent "p/class" ⟨33, 0⟩ Zip.methodStored (0o100644 <<< 16) [1]] []

theorem bundles_singleTree {archive : Zip.Archive} (reads : Zip.Archive.ofBytes singleArchive = .ok archive) :
    Bundles singleTree ["w"] archive singleArchive := by
  have members : (Zip.Archive.ofBytes singleArchive).toOption.map (fun archive =>
      archive.members.map fun member => (member.name, (member.read singleArchive).toOption)) =
        some [("p/class", some [1])] := by decide +kernel
  rw [reads] at members
  let files : List (List String × Files.File) := [(["p", "class"], ⟨0, [1], 1000000000000000000⟩)]
  refine @bundles_of_read _ _ _ _ files sound_singleTree (by decide) (fun {names file} => ?_) (by decide)
    (Option.some.inj members)
  rw [below_iff sound_singleTree]
  change _ ∈ [(["w"], Files.Entry.directory), (["w", "p"], .directory),
    (["w", "p", "class"], .file ⟨0, [1], 1000000000000000000⟩)] ↔ _
  simp [files]

/-- An archive of the files below the directory of `classTree`. -/
def classArchive : Bytes :=
  let record := fun name content =>
    Zip.Record.ofContent name ⟨33, 0⟩ Zip.methodStored (0o100644 <<< 16) content
  Zip.encode [record "A.class" [1], record "n.txt" [2], record "p/B.class" [3]] []

/-- Names that do not end in `class`, with no dot before the ending of a class. -/
theorem common_of_checks (ordinary : isManifestName ("/".intercalate names) = false)
    (uncalled : names.getLast? ≠ some "class")
    (dotless : ¬(classSuffix.isSuffixOf ("/".intercalate names).toList = true ∧
      '.' ∈ stemOf ("/".intercalate names).toList)) : Common names where
  ordinary := ordinary
  called same := absurd (by rw [same]; simp) uncalled
  dotless {stem} whole dotted := by
    rw [whole, stemOf_append] at dotless
    exact dotless ⟨List.isSuffixOf_iff_suffix.2 (List.suffix_append _ _), dotted⟩

theorem below_classTree {entry : Files.Entry} : classTree.at? (["w"] ++ names) = some entry ↔
    (names, entry) ∈ [([], Files.Entry.directory), (["p"], .directory),
      (["A.class"], .file ⟨0, [1], 1000000000000000000⟩), (["n.txt"], .file ⟨1, [2], 1000000000000000000⟩),
      (["p", "B.class"], .file ⟨2, [3], 1000000000000000000⟩)] := by
  rw [below_iff sound_classTree]
  change _ ∈ [(["w"], Files.Entry.directory), (["w", "p"], .directory),
    (["w", "A.class"], .file ⟨0, [1], 1000000000000000000⟩),
    (["w", "n.txt"], .file ⟨1, [2], 1000000000000000000⟩),
    (["w", "p", "B.class"], .file ⟨2, [3], 1000000000000000000⟩)] ↔ _
  simp

theorem bundles_classTree {archive : Zip.Archive} (reads : Zip.Archive.ofBytes classArchive = .ok archive) :
    Bundles classTree ["w"] archive classArchive := by
  have members : (Zip.Archive.ofBytes classArchive).toOption.map (fun archive =>
      archive.members.map fun member => (member.name, (member.read classArchive).toOption)) =
        some [("A.class", some [1]), ("n.txt", some [2]), ("p/B.class", some [3])] := by decide +kernel
  rw [reads] at members
  let files : List (List String × Files.File) := [(["A.class"], ⟨0, [1], 1000000000000000000⟩),
    (["n.txt"], ⟨1, [2], 1000000000000000000⟩), (["p", "B.class"], ⟨2, [3], 1000000000000000000⟩)]
  refine @bundles_of_read _ _ _ _ files sound_classTree (by decide) (fun {names file} => ?_) (by decide)
    (Option.some.inj members)
  rw [below_classTree]
  simp [files]

theorem common_classTree : AllCommon classTree ["w"] := by
  intro names file held
  have checks : ∀ names ∈ [["A.class"], ["n.txt"], ["p", "B.class"]],
      isManifestName ("/".intercalate names) = false ∧ names.getLast? ≠ some "class" ∧
        ¬(classSuffix.isSuffixOf ("/".intercalate names).toList = true ∧
          '.' ∈ stemOf ("/".intercalate names).toList) := by decide +kernel
  have listed := below_classTree.1 held
  obtain ⟨ordinary, uncalled, dotless⟩ := checks names (by simp at listed ⊢; tauto)
  exact common_of_checks ordinary uncalled dotless

/-- What is below the directory can be asked for, if the five paths to it can. -/
theorem askable_classTree (path : List String → Path)
    (short : ∀ names ∈ [[], ["p"], ["A.class"], ["n.txt"], ["p", "B.class"]],
      FileTree.hasNul (path names).toString = false ∧
        (path names).toString.utf8ByteSize ≤ FileTree.pathLimit ∧ ∀ part ∈ (path names).parts, part.utf8ByteSize ≤ 255) {entry : Files.Entry}
    (held : classTree.at? (["w"] ++ names) = some entry) : FileTree.Askable (path names) := by
  have listed := below_classTree.1 held
  obtain ⟨clean, size, parts⟩ := short names (by simp at listed ⊢; tauto)
  exact ⟨clean, size, parts⟩

theorem markingHost_calculates : markingHost.Calculates
    (fun className content => .ok (if className = "A" then .octets (content ++ [9]) else .null))
    fun className _ => className ++ ";" :=
  ⟨fun _ _ _ _ workspace => ⟨workspace.files.clock, le_refl _, id, rfl⟩, fun _ _ => rfl⟩

theorem site_classArchive {archive : Zip.Archive} (reads : Zip.Archive.ofBytes classArchive = .ok archive) :
    Site (jarTree classArchive) (Path.ofString "x.jar") [] ⟨0, classArchive, 1000000000000000000⟩ archive
      classTree ["w"] := by
  have sound := sound_jarTree classArchive
  have linkless : (jarTree classArchive).Linkless := sound.unlinked (by decide +kernel)
  have found : (jarTree classArchive).stat true (Path.ofString "x.jar").toString =
      .ok (["x.jar"], .file ⟨0, classArchive, 1000000000000000000⟩) := by decide +kernel
  obtain ⟨_, _, directory, reaches, place, held⟩ :=
    linkless.reaches_of_stat sound (Path.ofString_proper "x.jar") found
  obtain rfl : [] = directory := (List.append_inj' (place : [] ++ ["x.jar"] = _) rfl).1
  refine ⟨sound, linkless, ?_, found, Rebuild.stripped_reaches_of_bare sound ?_ reaches, by decide +kernel,
    ⟨by decide +kernel, by decide +kernel, by decide +kernel⟩, reads, bundles_classTree reads,
    common_classTree, askable_classTree (under _) (by decide +kernel)⟩
  · exact exists_of_isSome (by decide +kernel)
  · simp only [Rebuild.swappedNames, List.mem_cons, List.not_mem_nil, or_false]
    rintro other (rfl | rfl | rfl)
    · exact .inr ⟨_, held⟩
    · exact .inl (by decide +kernel)
    · exact .inl (by decide +kernel)

end Run
end ClassLoom
