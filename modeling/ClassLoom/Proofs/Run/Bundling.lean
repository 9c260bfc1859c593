import ClassLoom.Proofs.Rebuild.Ordering
import ClassLoom.Proofs.Rebuild.Repacking
import ClassLoom.Proofs.Run.Completing
import ClassLoom.Proofs.Run.OwnBytes

namespace ClassLoom
namespace Run

/-!
# The files of a directory as an archive

An archive may have for its entries just the files below a directory.  Then an entry is called by the
names that lead to its file, with slashes between them, and is staged at these names.

A run over the directory and a run over the archive do not have the same idea of a class.  In a directory
the names are joined by dots before the ending is looked for, so that a file called `class` in a directory
below is one.  In an archive the class is looked up by its name, so that an entry with a dot before its
ending is looked for elsewhere.  Where neither occurs, the two find the same classes.
-/

open Files (FileTree IsName IsSegment Path)
open Rebuild (under keyOf)

variable {tree : FileTree} {root : Path} {top : Files.Location} {archive : Zip.Archive} {bytes : Bytes}
  {names : List String} {file : Files.File} {member : Zip.Member}

/-! ## Names -/

/-- Names with slashes between them are not the name of a directory, and they are not empty. -/
theorem leaf_of_names (nonempty : names ≠ []) (segments : ∀ name ∈ names, IsSegment name) :
    isDirectoryName ("/".intercalate names) = false ∧ checkName ("/".intercalate names) = .ok () := by
  constructor
  · rw [isDirectoryName, Bool.eq_false_iff, ne_eq, Path.endsWith_slash_iff]
    rintro ⟨front, whole⟩
    -- A slash at the end would leave an empty name behind it.
    have pieces := Files.splitAt_append_separator '/' front []
    have spelled := congrArg (List.map String.toList)
      (Files.segments_intercalate nonempty fun name among => (segments name among).1)
    rw [Files.segments, ← whole, pieces, List.map_map] at spelled
    have listed : ([] : List Char) ∈ names.map String.toList := by
      rw [← spelled]
      simp [Files.splitAt]
    obtain ⟨name, among, empty⟩ := List.mem_map.1 listed
    exact (segments name among).toList_ne_nil empty
  · obtain ⟨c, rest, spelled, _⟩ := Files.intercalate_eq_cons nonempty segments
    rw [checkName, if_neg]
    intro empty
    rw [eq_of_beq empty] at spelled
    cases spelled

/-- Names that are joined by dots are those that are joined by slashes, with dots for the slashes. -/
theorem toList_joined (slashless : ∀ name ∈ names, '/' ∉ name.toList) :
    (Text.joined "." names).toList = replaceCharacter '/' '.' ("/".intercalate names).toList := by
  rw [Text.joined]
  induction names with
  | nil => rfl
  | cons name rest inductionHypothesis =>
      have first := (replaceCharacter_eq_self_iff (by decide : '.' ≠ '/')).2
        (slashless name List.mem_cons_self)
      cases rest with
      | nil => rw [String.intercalate_singleton, String.intercalate_singleton, first]
      | cons second others =>
          have further :=
            inductionHypothesis fun name among => slashless name (List.mem_cons_of_mem _ among)
          rw [String.intercalate_cons_cons, String.intercalate_cons_cons, String.toList_append,
            String.toList_append, String.toList_append, String.toList_append, further]
          conv_lhs => rw [← first]
          simp only [replaceCharacter, List.map_append]
          rfl

theorem isClassName_iff {name : String} (leaf : isDirectoryName name = false) :
    isClassName name = true ↔ classSuffix <:+ name.toList := by
  have suffix : (".class" : String).toList = classSuffix := rfl
  simp [isClassName, leaf, ← String.endsWith_toSlice, suffix]

/-! ## Classes -/

/-- The names that lead to a file are those of the same class, or of none, for a run over a directory and
for a run over an archive: they do not lead to a file `class` in a directory below, a class has no dot
before its ending, and they are not those of the manifest. -/
structure Common (names : List String) : Prop where
  ordinary : isManifestName ("/".intercalate names) = false
  called : ∀ {front : List String}, names = front ++ ["class"] → front = []
  dotless : ∀ {stem : List Char}, ("/".intercalate names).toList = stem ++ classSuffix → '.' ∉ stem

namespace Common

/-- A file is a class in a directory if it is one in an archive. -/
theorem suffix_iff (common : Common names) (nonempty : names ≠ [])
    (slashless : ∀ name ∈ names, '/' ∉ name.toList) :
    classSuffix <:+ (Text.joined "." names).toList ↔ classSuffix <:+ ("/".intercalate names).toList := by
  constructor
  · intro ending
    rcases List.eq_nil_or_concat' names with rfl | ⟨front, name, rfl⟩
    · exact absurd rfl nonempty
    have found : Candidate.of? ⟨"", []⟩ (front ++ [name]) = some _ :=
      if_pos (List.isSuffixOf_iff_suffix.2 ending)
    rcases ending_of_called found with own | ⟨rfl, below⟩
    · refine own.trans ?_
      by_cases alone : front = []
      · rw [alone, List.nil_append, String.intercalate_singleton]
      · rw [Files.intercalate_concat alone, String.toList_append]
        exact List.suffix_append _ _
    · exact absurd (common.called rfl) below
  · rintro ⟨stem, whole⟩
    rw [toList_joined slashless, ← whole, replaceCharacter, List.map_append]
    exact ⟨_, rfl⟩

/-- In a directory a class is found where an entry of an archive is one, and has the name that it has
there. -/
theorem of?_eq (common : Common names) (nonempty : names ≠ []) (segments : ∀ name ∈ names, IsSegment name)
    (path : Path) :
    Candidate.of? path names = if isClassName ("/".intercalate names) = true then
      some ⟨"/".intercalate names, classOfResource ("/".intercalate names), path⟩ else none := by
  have slashless : ∀ name ∈ names, '/' ∉ name.toList := fun name among => (segments name among).1
  have leaf := (leaf_of_names nonempty segments).1
  rw [Candidate.of?]
  by_cases isClass : isClassName ("/".intercalate names) = true
  · have ending := (isClassName_iff leaf).1 isClass
    rw [if_pos isClass,
      if_pos (List.isSuffixOf_iff_suffix.2 ((common.suffix_iff nonempty slashless).2 ending)), classOfResource, toList_joined slashless]
    obtain ⟨stem, whole⟩ := ending
    have dotted : replaceCharacter '/' '.' (stem ++ classSuffix) =
        replaceCharacter '/' '.' stem ++ classSuffix := by
      rw [replaceCharacter, List.map_append]
      rfl
    rw [← whole, dotted, stemOf_append, stemOf_append]
  · have none : ¬classSuffix.isSuffixOf (Text.joined "." names).toList = true := fun ending =>
      isClass ((isClassName_iff leaf).2
        ((common.suffix_iff nonempty slashless).1 (List.isSuffixOf_iff_suffix.1 ending)))
    rw [if_neg isClass, if_neg none]

/-- In an archive a class is looked for where it is. -/
theorem spelled (common : Common names) (nonempty : names ≠ []) (segments : ∀ name ∈ names, IsSegment name)
    (isClass : isClassName ("/".intercalate names) = true) :
    resourceOfClass (classOfResource ("/".intercalate names)) = "/".intercalate names := by
  obtain ⟨stem, whole⟩ := (isClassName_iff (leaf_of_names nonempty segments).1).1 isClass
  have text : "/".intercalate names = String.ofList (stem ++ classSuffix) := by
    rw [whole, String.ofList_toList]
  rw [text]
  exact resource_of_classOfResource (common.dotless whole.symm)

end Common

/-! ## Entries -/

/-- An entry of an archive that is a file below a directory. -/
structure IsEntry (tree : FileTree) (top : Files.Location) (bytes : Bytes) (names : List String)
    (file : Files.File) (member : Zip.Member) : Prop where
  held : tree.at? (top ++ names) = some (.file file)
  name : member.name = "/".intercalate names
  read : member.read bytes = .ok file.content

/-- The entries of an archive are the files below a directory, each once. -/
structure Bundles (tree : FileTree) (top : Files.Location) (archive : Zip.Archive) (bytes : Bytes) :
    Prop where
  sound : tree.Sound
  alive : tree.at? top = some .directory
  once : (archive.members.map Zip.Member.name).Nodup
  packed : ∀ {names : List String} {file : Files.File}, tree.at? (top ++ names) = some (.file file) →
    ∃ member ∈ archive.members, IsEntry tree top bytes names file member
  unpacked : ∀ member ∈ archive.members, ∃ names file, IsEntry tree top bytes names file member

/-- The content of an entry. -/
def contentFrom (bytes : Bytes) (member : Zip.Member) : Bytes := (member.read bytes).toOption.getD []

theorem IsEntry.content (entry : IsEntry tree top bytes names file member) :
    contentFrom bytes member = file.content := by
  rw [contentFrom, entry.read]
  rfl

/-- The calls on the entries that are classes. -/
def callsFor (bytes : Bytes) (members : List Zip.Member) : List (String × Bytes) :=
  (members.filter fun member => isClassName member.name).map fun member =>
    (classOfResource member.name, contentFrom bytes member)

/-- All files below a directory are the same classes, or none, for both kinds of runs. -/
def AllCommon (tree : FileTree) (top : Files.Location) : Prop :=
  ∀ {names : List String} {file : Files.File}, tree.at? (top ++ names) = some (.file file) → Common names

namespace Bundles

theorem names_ne_nil (bundles : Bundles tree top archive bytes)
    (held : tree.at? (top ++ names) = some (.file file)) : names ≠ [] := by
  rintro rfl
  rw [List.append_nil, bundles.alive] at held
  cases held

theorem named (bundles : Bundles tree top archive bytes)
    (held : tree.at? (top ++ names) = some (.file file)) : ∀ name ∈ names, IsName name :=
  fun name among => bundles.sound.named held name (List.mem_append_right top among)

theorem segments (bundles : Bundles tree top archive bytes)
    (held : tree.at? (top ++ names) = some (.file file)) : ∀ name ∈ names, IsSegment name :=
  fun name among => (bundles.named held name among).1

/-- An entry is staged at the names of its file. -/
theorem nameParts_eq (bundles : Bundles tree top archive bytes)
    (entry : IsEntry tree top bytes names file member) : nameParts member.name = names := by
  have spelled := Rebuild.nameParts_keyAt (bundles.names_ne_nil entry.held) (bundles.segments entry.held) false
  rwa [Rebuild.keyAt, if_neg (by decide), String.append_empty, ← entry.name] at spelled

/-- An entry is remembered under its name. -/
theorem keyOf_eq (bundles : Bundles tree top archive bytes)
    (entry : IsEntry tree top bytes names file member) : keyOf member.name false = member.name := by
  rw [keyOf, stagedName, bundles.nameParts_eq entry, ← entry.name, if_neg (by decide), String.append_empty]

/-- Entries are staged at different names. -/
theorem eq_of_nameParts (bundles : Bundles tree top archive bytes) {first second : Zip.Member}
    (one : first ∈ archive.members) (two : second ∈ archive.members)
    (same : nameParts first.name = nameParts second.name) : first = second := by
  obtain ⟨_, _, entry⟩ := bundles.unpacked first one
  obtain ⟨_, _, other⟩ := bundles.unpacked second two
  refine List.inj_on_of_nodup_map bundles.once one two ?_
  rw [entry.name, other.name, ← bundles.nameParts_eq entry, same, bundles.nameParts_eq other]

theorem distinct (bundles : Bundles tree top archive bytes) : Rebuild.Distinct archive := by
  have listed : (archive.members.map fun member => nameParts member.name).Nodup :=
    List.Nodup.map_on (fun _ one _ two same => bundles.eq_of_nameParts one two same)
      (List.Nodup.of_map _ bundles.once)
  exact listed.sublist (List.filter_sublist.map _)

/-- An entry is staged at other names than those before it. -/
theorem apart (bundles : Bundles tree top archive bytes) {past rest : List Zip.Member} {other : Zip.Member}
    (whole : archive.members = past ++ member :: rest) (earlier : other ∈ past) :
    nameParts other.name ≠ nameParts member.name := by
  intro same
  have listed : other ∈ archive.members := whole ▸ List.mem_append_left _ earlier
  have here : member ∈ archive.members := whole ▸ List.mem_append_right past List.mem_cons_self
  have once := List.Nodup.of_map _ bundles.once
  rw [whole, List.nodup_append] at once
  exact once.2.2 other earlier member List.mem_cons_self (bundles.eq_of_nameParts listed here same)

/-- An entry is found by its name. -/
theorem find?_eq (bundles : Bundles tree top archive bytes) (common : AllCommon tree top)
    (among : member ∈ archive.members) : archive.find? member.name = some member := by
  obtain ⟨_, _, entry⟩ := bundles.unpacked member among
  refine bundles.distinct.find?_eq (Rebuild.mem_ordinaryMembers_iff.2 ⟨among, ?_⟩)
  rw [entry.name]
  exact (common entry.held).ordinary

/-- A run over the directory and a run over the archive call the transformer on the same classes. -/
theorem perm_calls (bundles : Bundles tree top archive bytes) (common : AllCommon tree top)
    (directory : DirectoryTree tree root top) (roomy : Roomy tree root top) {found : List Candidate}
    (enumerates : Enumerates tree root top (fun _ => True) found) :
    (found.map (callOn tree)).Perm (callsFor bytes archive.members) := by
  let candidate : Zip.Member → Candidate := fun member =>
    ⟨member.name, classOfResource member.name, under root (nameParts member.name)⟩
  let classes := archive.members.filter fun member => isClassName member.name
  have called : ∀ {names : List String} {file : Files.File} {member : Zip.Member},
      IsEntry tree top bytes names file member → isClassName member.name = true →
      IsClassFile tree root top names file (candidate member) := by
    intro names file member entry isClass
    refine ⟨entry.held, ?_⟩
    rw [(common entry.held).of?_eq (bundles.names_ne_nil entry.held) (bundles.segments entry.held),
      ← entry.name, if_pos isClass, ← bundles.nameParts_eq entry]
  have same : found.Perm (classes.map candidate) := by
    refine (List.perm_ext_iff_of_nodup enumerates.once ?_).2 fun item => ?_
    · have once : (classes.map Zip.Member.name).Nodup := bundles.once.sublist (List.filter_sublist.map _)
      refine List.Nodup.of_map Candidate.relativePath ?_
      rw [List.map_map]
      exact once
    · rw [enumerates.mem, List.mem_map]
      constructor
      · rintro ⟨names, file, _, classFile⟩
        obtain ⟨member, among, entry⟩ := bundles.packed classFile.held
        have found := classFile.called
        rw [(common entry.held).of?_eq (bundles.names_ne_nil entry.held) (bundles.segments entry.held),
          ← entry.name] at found
        split at found
        next isClass =>
          refine ⟨member, List.mem_filter.2 ⟨among, isClass⟩, ?_⟩
          rw [← Option.some.inj found, ← bundles.nameParts_eq entry]
        next => cases found
      · rintro ⟨member, among, rfl⟩
        obtain ⟨listed, isClass⟩ := List.mem_filter.1 among
        obtain ⟨names, file, entry⟩ := bundles.unpacked member listed
        exact ⟨names, file, trivial, called entry isClass⟩
  refine (same.map (callOn tree)).trans (List.Perm.of_eq ?_)
  rw [callsFor, List.map_map]
  refine List.map_congr_left fun member among => ?_
  obtain ⟨listed, isClass⟩ := List.mem_filter.1 among
  obtain ⟨names, file, entry⟩ := bundles.unpacked member listed
  rw [Function.comp_apply, callOn, contentIn_eq directory roomy (called entry isClass), entry.content]

end Bundles

end Run
end ClassLoom
