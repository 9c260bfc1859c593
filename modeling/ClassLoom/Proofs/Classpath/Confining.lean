import ClassLoom.Proofs.Classpath.Packaging
import ClassLoom.Proofs.Run.Directory

namespace ClassLoom
namespace Classpath

/-!
# Look-ups stay below their directory

Anything may be asked for as a class, a text with slashes and dots included.  A directory looks for it at
a single path.  No dot of the text is left in that path, because a dot separates the parts of a name, so
no part of it leads up or out; the one dot that it has is that of the ending.  A slash in front makes no
difference either: the parts are appended one by one, and an empty one is passed over.

So what is tested, and what is answered, is below the directory.  This is a statement about paths as
they are spelled: links below the directory may lead anywhere.
-/

open Files (Path IsName)
open Rebuild (under)

variable {number : Nat} {root place : Path} {className : String} {roots : List Root}
  {location : Location} {before after : Workspace}

/-- A path that consists of another one and of names behind it, the last of which is that of a class
file. -/
def IsClassFileBelow (root place : Path) : Prop :=
  ∃ front last, place = under root (front ++ [last]) ∧ (∀ name ∈ front ++ [last], IsName name) ∧
    classSuffix <:+ last.toList

/-- The path at which a directory looks for a class. -/
def classFile (root : Path) (className : String) : Path :=
  under root (resourceSegments (resourceOfClass className))

/-- The resource of a class ends in a name that has the ending of a class file. -/
theorem resourceSegments_resourceOfClass (className : String) :
    ∃ front last, resourceSegments (resourceOfClass className) = front ++ [last] ∧
      classSuffix <:+ last.toList := by
  have slashless : '/' ∉ classSuffix := by decide
  obtain ⟨pieces, last, split, ended⟩ :=
    Files.splitAt_append_of_notMem slashless (replaceCharacter '.' '/' className.toList)
  have segments : Files.segments (resourceOfClass className) =
      pieces.map String.ofList ++ [String.ofList last] := by
    rw [Files.segments, toList_resourceOfClass, split, List.map_append]
    rfl
  have filled : String.ofList last ≠ "" := by
    intro empty
    have none : last = [] := String.ofList_eq_empty_iff.mp empty
    rw [none, List.suffix_nil] at ended
    exact absurd ended (by decide)
  have named : IsName (String.ofList last) :=
    isName_of_mem_segments (segments ▸ List.mem_concat_self) filled
  refine ⟨(pieces.map String.ofList).filter fun s => !Files.isIdle s, String.ofList last, ?_, ?_⟩
  · rw [resourceSegments, segments, List.filter_append, List.filter_singleton, named.1.2]
    rfl
  · rw [String.toList_ofList]
    exact ended

theorem isClassFileBelow_classFile (root : Path) (className : String) :
    IsClassFileBelow root (classFile root className) := by
  obtain ⟨front, last, segments, ended⟩ := resourceSegments_resourceOfClass className
  refine ⟨front, last, ?_, ?_, ended⟩
  · rw [classFile, segments]
  · intro name member
    rw [← segments] at member
    exact isName_of_mem_resourceSegments member

/-- The spelling of a path below a directory is read as that path. -/
theorem IsClassFileBelow.ofString_toString (below : IsClassFileBelow root place) (proper : root.Proper) :
    Path.ofString place.toString = place := by
  obtain ⟨front, last, rfl, named, _⟩ := below
  apply Path.ofString_toString
  refine ⟨proper.root, ?_⟩
  intro part member
  rcases List.mem_append.mp member with above | listed
  · exact proper.parts part above
  · exact (named part listed).1

/-- What is answered by testing one path and nothing else. -/
def tested (tree : Files.FileTree) (place : Path) : Outcome (Option Location) :=
  match tree.isFile? place with
  | .ok isFile => .ok (if isFile then some ⟨place.toString, none⟩ else none)
  | .error error => .error (.fault (.file error))

theorem location_of_tested {tree : Files.FileTree} (answered : tested tree place = .ok (some location)) :
    location = ⟨place.toString, none⟩ := by
  unfold tested at answered
  cases asked : tree.isFile? place with
  | error error =>
      rw [asked] at answered
      cases answered
  | ok isFile =>
      rw [asked] at answered
      cases isFile with
      | true => exact (Option.some.inj (Except.ok.inj answered)).symm
      | false => cases answered

/-- What a directory answers for a class depends on nothing but the file at one path. -/
theorem find?_directory (tree : Files.FileTree) (root : Path) (className : String) :
    Root.find? tree (resourceOfClass className) (.directory root) =
      tested tree (classFile root className) := by
  have path : root.descend (resourceSegments (resourceOfClass className)) = classFile root className :=
    Rebuild.descend_eq_under root (resourceOfClass className)
  simp only [Root.find?, path, tested]
  cases tree.isFile? (classFile root className) with
  | error error => rfl
  | ok isFile => cases isFile <;> rfl

/-- An archive that has been opened is still that archive. -/
theorem opened_archive {tree : Files.FileTree} {path : Path} {handle : Option OpenArchive} {opened : Root}
    (opens : (Root.archive path handle).opened tree = .ok opened) :
    ∃ known, opened = .archive path (some known) := by
  cases handle with
  | some known => exact ⟨known, (Except.ok.inj opens).symm⟩
  | none =>
      unfold Root.opened at opens
      simp only at opens
      split at opens
      next known _ => exact ⟨known, (Except.ok.inj opens).symm⟩
      next =>
        split at opens
        · cases opens
        · cases opens

/-- An element of a classpath answers with the path at which a directory looks for the class, or with
an entry of an archive. -/
theorem located_of_answer {tree : Files.FileTree} {element opened : Root}
    (answered : element.answer tree (resourceOfClass className) = .ok (some (opened, location))) :
    (∃ root, element = .directory root ∧ location = ⟨(classFile root className).toString, none⟩) ∨
      ∃ path handle, element = .archive path handle ∧
        location = ⟨path.toString, some (resourceOfClass className)⟩ := by
  obtain ⟨opens, found⟩ := answer_eq_some_iff.mp answered
  cases element with
  | directory root =>
      obtain rfl := Except.ok.inj opens
      rw [find?_directory] at found
      exact .inl ⟨root, rfl, location_of_tested found⟩
  | archive path handle =>
      obtain ⟨known, rfl⟩ := opened_archive opens
      obtain ⟨member, _, same⟩ := Option.map_eq_some_iff.mp (Except.ok.inj found)
      exact .inr ⟨path, handle, rfl, same.symm⟩

/-- Whatever is asked for as a class, a directory tests one path, which is its own and names behind it,
and answers with the spelling of that path.  A classpath answers for its directories with such a location,
and else with an entry of an archive. -/
theorem lookups_below_root (className : String) :
    (∀ root : Path, IsClassFileBelow root (classFile root className) ∧
        (root.Proper → Path.ofString (classFile root className).toString = classFile root className) ∧
        ∀ tree, Root.find? tree (resourceOfClass className) (.directory root) =
          tested tree (classFile root className)) ∧
      ∀ {number : Nat} {roots : List Root} {before after : Workspace} {location : Location},
        IsOpen number roots before →
        Classpath.find number className before = (.ok (some location), after) →
        (∃ root, .directory root ∈ roots ∧ location = ⟨(classFile root className).toString, none⟩) ∨
          ∃ path handle, .archive path handle ∈ roots ∧
            location = ⟨path.toString, some (resourceOfClass className)⟩ := by
  constructor
  · intro root
    have below := isClassFileBelow_classFile root className
    exact ⟨below, below.ofString_toString, fun tree => find?_directory tree root className⟩
  · intro number roots before after location known run
    obtain ⟨later, _, course⟩ := find_run known className
    rw [course] at run
    have answers := (Prod.mk.inj run).1
    cases answered : firstAnswer before.files (resourceOfClass className) roots with
    | error failure =>
        rw [answered] at answers
        cases answers
    | ok found =>
        rw [answered] at answers
        obtain ⟨⟨opened, place⟩, rfl, rfl⟩ := Option.map_eq_some_iff.mp (Except.ok.inj answers)
        obtain ⟨front, element, back, rfl, _, settled⟩ := firstAnswer_eq_some_iff.mp answered
        have among : element ∈ front ++ element :: back := List.mem_append_right front List.mem_cons_self
        rcases located_of_answer settled with ⟨root, rfl, same⟩ | ⟨path, handle, rfl, same⟩
        · exact .inl ⟨root, among, same⟩
        · exact .inr ⟨path, handle, among, same⟩

/-- A workspace with one classpath, which consists of a directory with a class `A`. -/
def shelf : Workspace :=
  { (default : Workspace) with
    files := Run.classTree
    classpaths := [⟨[.directory (Path.ofString "w")], false⟩] }

/-- A name that begins like a way up from the top finds a class of the directory. -/
theorem found_below_shelf :
    (Path.ofString "w").Proper ∧ IsOpen 0 [.directory (Path.ofString "w")] shelf ∧
      (Classpath.find 0 "/..A" shelf).1 = .ok (some ⟨"w/A.class", none⟩) ∧
      Path.ofString "w/A.class" = classFile (Path.ofString "w") "/..A" ∧
      IsClassFileBelow (Path.ofString "w") (Path.ofString "w/A.class") := by
  have proper : (Path.ofString "w").Proper := Path.ofString_proper "w"
  have known : IsOpen 0 [.directory (Path.ofString "w")] shelf := rfl
  have found : (Classpath.find 0 "/..A" shelf).1 = .ok (some ⟨"w/A.class", none⟩) :=
    toOption_eq_some_iff.mp (by decide +kernel)
  obtain ⟨directories, classpaths⟩ := lookups_below_root "/..A"
  obtain ⟨below, reads, _⟩ := directories (Path.ofString "w")
  have spelled : (classFile (Path.ofString "w") "/..A").toString = "w/A.class" := by
    rcases classpaths known (Prod.ext found rfl) with ⟨root, among, same⟩ | ⟨path, handle, among, _⟩
    · obtain rfl := Root.directory.inj (List.mem_singleton.mp among)
      exact (Location.mk.inj same).1.symm
    · cases List.mem_singleton.mp among
  have readBack := reads proper
  rw [spelled] at readBack
  exact ⟨proper, known, found, readBack, readBack ▸ below⟩

end Classpath
end ClassLoom
