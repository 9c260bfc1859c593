import ClassLoom.Proofs.Classpath.Searching
import ClassLoom.Proofs.Files.Granting
import ClassLoom.Proofs.Names
import ClassLoom.Proofs.Run.Enumerating

namespace ClassLoom
namespace Classpath

/-!
# Directories and archives of the same files

A directory looks for a resource along its segments, and passes over those that name nothing.  An
archive compares the whole text of the resource with the names of its entries.  So a directory and an
archive of the same files agree on a class if every part of its name names something.  If a part is
empty, as before a leading dot, no entry is called like the resource, and the directory answers as if
that part had not been written.

A directory is asked through the operating system, which takes no path that is too long.  So the
agreement is stated for classes whose path can be asked for.
-/

open Files (FileTree Path IsName)
open Rebuild (under)
open Run (DirectoryTree)

variable {tree : FileTree} {root path : Path} {top : Files.Location} {resource className : String}
  {names : List String} {number other : Nat} {handle : OpenArchive} {element : Root}
  {before twin : Workspace}

/-! ## Resources of classes -/

/-- The segments of the resource of a class are names, or empty. -/
theorem isName_of_mem_segments {segment : String}
    (member : segment ∈ Files.segments (resourceOfClass className)) (filled : segment ≠ "") :
    IsName segment := by
  have slashless := Files.slashless_of_mem_segments member
  obtain ⟨piece, listed, rfl⟩ := List.mem_map.mp member
  rw [resourceOfClass, String.toList_ofList] at listed
  rcases Files.mem_splitAt_append (by decide) listed with inside | ended
  · -- A dot in the name of a class is a slash in its resource.
    have dotless : '.' ∉ piece := fun dotted => notMem_replaceCharacter (by decide) (inside dotted)
    have other : ∀ text : String, '.' ∈ text.toList → String.ofList piece ≠ text := by
      rintro text dotted rfl
      rw [String.toList_ofList] at dotted
      exact dotless dotted
    refine ⟨⟨slashless, ?_⟩, other ".." (by decide)⟩
    apply Bool.eq_false_iff.mpr
    intro idle
    rcases Files.isIdle_eq_true.mp idle with empty | dot
    · exact filled empty
    · exact other "." (by decide) dot
  · apply IsName.of_two_lt_length slashless
    have long := ended.length_le
    have size : classSuffix.length = 6 := by decide
    rw [String.length_ofList]
    omega

theorem isName_of_mem_resourceSegments {segment : String}
    (member : segment ∈ resourceSegments (resourceOfClass className)) : IsName segment := by
  obtain ⟨listed, busy⟩ := List.mem_filter.mp member
  apply isName_of_mem_segments listed
  rintro rfl
  exact absurd busy (by decide)

/-- Nothing is passed over if no segment is empty. -/
theorem resourceSegments_eq (spelled : "" ∉ Files.segments (resourceOfClass className)) :
    resourceSegments (resourceOfClass className) = Files.segments (resourceOfClass className) := by
  apply List.filter_eq_self.mpr
  intro segment member
  have named := isName_of_mem_segments member fun empty => spelled (empty ▸ member)
  simp [named.1.2]

/-! ## Directories -/

section Directory

variable (directory : DirectoryTree tree root top)
  (askable : FileTree.Askable (under root (resourceSegments resource)))

include directory askable

/-- A directory holds a resource if a file is at its segments. -/
theorem answer_directory_of_file {file : Files.File}
    (held : tree.at? (top ++ resourceSegments resource) = some (.file file)) :
    (Root.directory root).answer tree resource =
        .ok (some (.directory root, ⟨(under root (resourceSegments resource)).toString, none⟩)) ∧
      tree.read (under root (resourceSegments resource)).toString = .ok file.content := by
  have seen := directory.reaches.stat_under directory.sound directory.stands_root.2 directory.proper
    askable held rfl
  refine ⟨?_, FileTree.read_of_stat seen⟩
  have isFile : tree.isFile? (under root (resourceSegments resource)) = .ok true :=
    FileTree.test_of_stat seen
  have path : root.descend (resourceSegments resource) = under root (resourceSegments resource) :=
    Rebuild.descend_eq_under root resource
  apply answer_eq_some_iff.mpr
  refine ⟨rfl, ?_⟩
  simp only [Root.find?, path, isFile]

/-- A directory lacks a resource if no file is at its segments. -/
theorem answer_directory_of_no_file (named : ∀ name ∈ resourceSegments resource, IsName name)
    (absent : ∀ file, tree.at? (top ++ resourceSegments resource) ≠ some (.file file)) :
    (Root.directory root).answer tree resource = .ok none := by
  have reaches := directory.reaches
  have alive := directory.stands_root.2
  have isFile : tree.isFile? (under root (resourceSegments resource)) = .ok false := by
    cases held : tree.at? (top ++ resourceSegments resource) with
    | none =>
        have plain : ∀ front, front <+: resourceSegments resource → ∀ target,
            tree.at? (top ++ front) ≠ some (.link target) :=
          fun front _ target => directory.plain (FileTree.isBelow_append top front)
        exact (reaches.unfound_under alive (directory.stands named).proper askable named plain held
          true).test
    | some entry =>
        cases entry with
        | file file => exact absurd held (absent file)
        | link target => exact absurd held (directory.plain (FileTree.isBelow_append top _))
        | directory =>
            exact FileTree.test_of_stat
              (reaches.stat_under directory.sound alive directory.proper askable held rfl)
  have path : root.descend (resourceSegments resource) = under root (resourceSegments resource) :=
    Rebuild.descend_eq_under root resource
  simp only [Root.answer, Root.opened, Root.find?, path, isFile]
  rfl

end Directory

/-- A directory cannot say whether it holds a resource whose first segment is longer than names may be. -/
theorem answer_directory_of_long {name : String} {rest : List String}
    (directory : DirectoryTree tree root top) (segments : resourceSegments resource = name :: rest)
    (named : ∀ part ∈ resourceSegments resource, IsName part) (long : 255 < name.utf8ByteSize)
    (clean : FileTree.hasNul (under root (resourceSegments resource)).toString = false) :
    (Root.directory root).answer tree resource =
      .error (.fault (.file (.on (under root (resourceSegments resource)).toString .nameTooLong))) := by
  obtain ⟨left, leads⟩ := directory.reaches
  have base : tree.base (under root (resourceSegments resource)) = tree.base root := rfl
  have refused : tree.find true (under root (resourceSegments resource)).toString =
      .error .nameTooLong := by
    rw [FileTree.find_eq_search (directory.stands named).proper]
    split
    · rfl
    · have first := named name (segments ▸ List.mem_cons_self)
      rw [base, under, segments, leads.search_append (List.cons_ne_nil name rest),
        FileTree.search_name first.1.2 first.2, if_pos long]
  have isFile : tree.isFile? (under root (resourceSegments resource)) =
      .error (.on (under root (resourceSegments resource)).toString .nameTooLong) := by
    rw [FileTree.isFile?, FileTree.test, FileTree.stat, if_neg (by simp [clean]), refused]
    rfl
  have path : root.descend (resourceSegments resource) = under root (resourceSegments resource) :=
    Rebuild.descend_eq_under root resource
  simp only [Root.answer, Root.opened, Root.find?, path, isFile]

/-- So a directory in front hides a class with a long name, whatever the elements behind it hold. -/
theorem lookups_long {name : String} {rest : List String} {behind : List Root}
    (directory : DirectoryTree before.files root top)
    (known : IsOpen number (.directory root :: behind) before)
    (segments : resourceSegments (resourceOfClass className) = name :: rest)
    (long : 255 < name.utf8ByteSize)
    (clean : FileTree.hasNul
      (under root (resourceSegments (resourceOfClass className))).toString = false) :
    ∃ error, (Classpath.find number className before).1 = .error (.fault (.file error)) ∧
      (Classpath.contains number className before).1 = .error (.fault (.file error)) ∧
      (Classpath.resolve number className before).1 = .error (.fault (.file error)) := by
  obtain ⟨finds, contains, resolves⟩ := lookups_eq known className
  have answered := answer_directory_of_long directory segments
    (fun part member => isName_of_mem_resourceSegments member) long clean
  rw [finds, contains, resolves, firstAnswer, answered]
  exact ⟨_, rfl, rfl, rfl⟩

/-! ## Archives -/

/-- An archive of the files of a directory: their entries are called by their names with slashes between
them, and hold what they hold. -/
structure Packs (tree : FileTree) (top : Files.Location) (handle : OpenArchive) : Prop where
  packed : ∀ names file, tree.at? (top ++ names) = some (.file file) →
    ∃ member, handle.archive.find? ("/".intercalate names) = some member ∧
      handle.read tree member = .ok file.content
  unpacked : ∀ name member, handle.archive.find? name = some member →
    ∃ names file, (names ≠ [] ∧ ∀ part ∈ names, IsName part) ∧ name = "/".intercalate names ∧
      tree.at? (top ++ names) = some (.file file)

section Archive

variable (opens : element.opened tree = .ok (.archive path (some handle)))
  (packs : Packs tree top handle)

include opens packs

/-- An archive holds a resource if a file is at its segments. -/
theorem answer_archive_of_file {file : Files.File}
    (held : tree.at? (top ++ Files.segments resource) = some (.file file)) :
    element.answer tree resource =
        .ok (some (.archive path (some handle), ⟨path.toString, some resource⟩)) ∧
      Root.read tree ⟨path.toString, some resource⟩ (.archive path (some handle)) =
        .ok file.content := by
  obtain ⟨member, found, read⟩ := packs.packed _ file held
  rw [Files.intercalate_segments] at found
  constructor
  · apply answer_eq_some_iff.mpr
    refine ⟨opens, ?_⟩
    rw [Root.find?, found]
    rfl
  · have entryRead : Root.readEntry tree handle (some resource) = .ok file.content := by
      rw [Root.readEntry, found]
      exact read
    rw [Root.read, entryRead]

/-- Entries are called by segments that name something, so an archive lacks every other resource. -/
theorem answer_archive_of_no_file (absent : "" ∈ Files.segments resource ∨
      ∀ file, tree.at? (top ++ Files.segments resource) ≠ some (.file file)) :
    element.answer tree resource = .ok none := by
  have missing : handle.archive.find? resource = none := by
    apply Option.eq_none_iff_forall_ne_some.mpr
    intro member found
    obtain ⟨names, file, ⟨nonempty, named⟩, rfl, held⟩ := packs.unpacked _ _ found
    rw [Files.segments_intercalate nonempty fun part among => (named part among).1.1] at absent
    rcases absent with blank | bare
    · exact absurd (named "" blank).1.2 (by decide)
    · exact bare file held
  rw [Root.answer, opens]
  simp only [Root.find?, missing]
  rfl

end Archive

/-! ## Agreement -/

/-- A question to a classpath with a single element is a question to that element. -/
theorem firstAnswer_singleton (tree : FileTree) (resource : String) (element : Root) :
    firstAnswer tree resource [element] = element.answer tree resource := by
  rw [firstAnswer]
  split
  next lacks => rw [lacks]; rfl
  next => rfl

section Agreement

variable (directory : DirectoryTree before.files root top) (packs : Packs before.files top handle)
  (opens : element.opened before.files = .ok (.archive path (some handle)))
  (known : IsOpen number [.directory root] before) (knownTwin : IsOpen other [element] twin)
  (files : twin.files = before.files)
  (askable : FileTree.Askable (under root (resourceSegments (resourceOfClass className))))

include directory packs opens known knownTwin files askable

/-- A directory and an archive of the same files agree on a class of which no part of the name is empty:
on whether there is one, and on what it holds. -/
theorem lookups_packed (spelled : "" ∉ Files.segments (resourceOfClass className)) :
    (Classpath.contains other className twin).1 = (Classpath.contains number className before).1 ∧
      (Classpath.resolve other className twin).1.map Source.content =
        (Classpath.resolve number className before).1.map Source.content := by
  obtain ⟨_, contains, resolves⟩ := lookups_eq known className
  obtain ⟨_, containsTwin, resolvesTwin⟩ := lookups_eq knownTwin className
  rw [contains, resolves, containsTwin, resolvesTwin, files, firstAnswer_singleton,
    firstAnswer_singleton]
  have same := resourceSegments_eq spelled
  by_cases held : ∃ file, before.files.at? (top ++ Files.segments (resourceOfClass className)) =
      some (.file file)
  · obtain ⟨file, held⟩ := held
    obtain ⟨answered, read⟩ := answer_directory_of_file directory askable (same ▸ held)
    obtain ⟨answeredTwin, readTwin⟩ := answer_archive_of_file opens packs held
    rw [answered, answeredTwin]
    refine ⟨rfl, ?_⟩
    simp only [sourceOf]
    rw [readTwin, Root.read, read]
    rfl
  · have absent := not_exists.mp held
    rw [answer_directory_of_no_file directory askable
      (fun name member => isName_of_mem_resourceSegments member) (by rw [same]; exact absent),
      answer_archive_of_no_file opens packs (.inr absent)]
    exact ⟨rfl, rfl⟩

/-- A class of which a part of the name is empty is in no archive.  In a directory it is looked for under
the other parts. -/
theorem lookups_unspelled (blank : "" ∈ Files.segments (resourceOfClass className)) :
    (Classpath.contains other className twin).1 = .ok false ∧
      ((Classpath.contains number className before).1 = .ok true ↔ ∃ file,
        before.files.at? (top ++ resourceSegments (resourceOfClass className)) = some (.file file)) := by
  obtain ⟨_, contains, _⟩ := lookups_eq known className
  obtain ⟨_, containsTwin, _⟩ := lookups_eq knownTwin className
  rw [contains, containsTwin, files, firstAnswer_singleton, firstAnswer_singleton,
    answer_archive_of_no_file opens packs (.inl blank)]
  refine ⟨rfl, ?_⟩
  by_cases held : ∃ file, before.files.at? (top ++ resourceSegments (resourceOfClass className)) =
      some (.file file)
  · obtain ⟨file, held⟩ := held
    rw [(answer_directory_of_file directory askable held).1]
    exact ⟨fun _ => ⟨file, held⟩, fun _ => rfl⟩
  · rw [answer_directory_of_no_file directory askable
      (fun name member => isName_of_mem_resourceSegments member) (not_exists.mp held)]
    constructor
    · intro found
      cases found
    · intro there
      exact absurd there held

end Agreement

/-- The dot in front of a class is such a part: the directory looks for the class without it. -/
example : "" ∈ Files.segments (resourceOfClass ".a") ∧
    resourceSegments (resourceOfClass ".a") = resourceSegments (resourceOfClass "a") := by decide

end Classpath
end ClassLoom
