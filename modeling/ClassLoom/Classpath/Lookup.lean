import ClassLoom.Log.Writing
import ClassLoom.Names

namespace ClassLoom
namespace Classpath

/-!
# Looking up classes

The elements are asked in their order, and the first that holds the resource of the class answers.
An element is asked in two steps, where it has the resource and what is there, because a caller may
want the place alone.
-/

open Files (Path)

/-- Whether the file of a path is an archive; a file that cannot be read is none. -/
def isArchiveFile (tree : Files.FileTree) (path : String) : Outcome Bool :=
  match tree.read path with
  | .error .embeddedNul => .error (.fault (.file .embeddedNul))
  | .error _ => .ok false
  | .ok content =>
    match Zip.isArchive content with
    | .ok answer => .ok answer
    | .error error => .error (.fault (.archive error))

/-- Open the archive of a path. -/
def openArchive (tree : Files.FileTree) (path : Path) : Except Fault OpenArchive :=
  match tree.openFile path.toString with
  | .error error => .error (.file error)
  | .ok (_, file) =>
    match Zip.Archive.ofBytes file.content with
    | .ok archive => .ok ⟨file.id, archive⟩
    | .error error => .error (.archive error)

/-- The octets of an entry, read from the file that was opened. -/
def OpenArchive.read (tree : Files.FileTree) (opened : OpenArchive) (member : Zip.Member) :
    Except Fault Bytes :=
  match member.read ((tree.contentOf opened.file).getD []) with
  | .ok content => .ok content
  | .error error => .error (.archive error)

/-- The complaint about an entry that is not there. -/
def noSuchEntry (name : String) : Fault :=
  .missingKey ("There is no item named " ++ name ++ " in the archive")

namespace Root

/-- An element with its archive open. -/
def opened (tree : Files.FileTree) : Root → Outcome Root
  | .archive path none =>
    match openArchive tree path with
    | .ok handle => .ok (.archive path (some handle))
    | .error cause =>
      if cause.isSystem || cause.isDamage then
        .error (.general (.cannotOpenElement path.toString cause))
      else .error (.fault cause)
  | root => .ok root

/-- The place of a resource in an element whose archive is open. -/
def find? (tree : Files.FileTree) (resource : String) : Root → Outcome (Option Location)
  | .directory path =>
    let candidate := path.descend (resourceSegments resource)
    match tree.isFile? candidate with
    | .ok true => .ok (some ⟨candidate.toString, none⟩)
    | .ok false => .ok none
    | .error error => .error (.fault (.file error))
  | .archive _ none => .ok none
  | .archive path (some handle) =>
    .ok ((handle.archive.find? resource).map fun _ => ⟨path.toString, some resource⟩)

/-- The octets of an entry of an open archive. -/
def readEntry (tree : Files.FileTree) (handle : OpenArchive) : Option String → Except Fault Bytes
  | none => .error (noSuchEntry "None")
  | some entry =>
    match handle.archive.find? entry with
    | none => .error (noSuchEntry (Text.quoted entry))
    | some member => handle.read tree member

/-- The octets at a place in an element whose archive is open. -/
def read (tree : Files.FileTree) (location : Location) : Root → Outcome Bytes
  | .directory _ =>
    match tree.read location.path with
    | .ok content => .ok content
    | .error error => .error (Files.FileWork.failureOf (.read location.path) error)
  | .archive _ none => .error (.classNotFound location.path)
  | .archive _ (some handle) =>
    match readEntry tree handle location.entry with
    | .ok content => .ok content
    | .error (.missingKey key) =>
      .error (.general (.cannotReadLocation location.toString (.missingKey key)))
    | .error cause =>
      if cause.isSystem || cause.isDamage then
        .error (.general (.cannotReadLocation location.toString cause))
      else .error (.fault cause)

end Root

/-- Ask an element of a classpath, after opening it if it is an archive; an archive stays open. -/
def askRoot {α : Type} (number position : Nat) (question : Files.FileTree → Root → Outcome α) :
    Work (Option α) := do
  let context ← Work.classpath number
  match context.roots[position]? with
  | none => return none
  | some root =>
    let root ← Work.ofOutcome (root.opened (← Work.files))
    Work.setClasspath number { context with roots := context.roots.set position root }
    return some (← Work.ofOutcome (question (← Work.files) root))

/-- The element that a path names; paths that name none are reported. -/
def rootOf? (path : Path) : Work (Option Root) := do
  let logger ← Log.globalLogger
  let shown := path.toString
  if ← Work.ask (·.isDirectory? path) then
    Log.debug logger ("Adding classpath directory: " ++ shown)
    return some (.directory path)
  if ← Work.ask (·.isFile? path) then
    if ← Work.ofOutcome (isArchiveFile (← Work.files) shown) then
      Log.debug logger ("Adding classpath archive: " ++ shown)
      return some (.archive path none)
    Log.warning logger ("Ignoring classpath element that is not an archive: " ++ shown)
    return none
  Log.warning logger ("Ignoring missing classpath element: " ++ shown)
  return none

/-- The elements that paths name. -/
def rootsOf (elements : List String) : Work (List Root) :=
  elements.filterMapM fun element => rootOf? (Path.ofString element)

/-- Refuse a closed classpath. -/
def checkOpen (number : Nat) : Work Unit := do
  if (← Work.classpath number).closed then throw (.general .classpathClosed)

/-- The first element from a position on that has a resource, and the place. -/
def findFrom (number : Nat) (resource : String) : Nat → Nat → Work (Option (Nat × Location))
  | 0, _ => return none
  | left + 1, position => do
    match ← askRoot number position (fun tree root => root.find? tree resource) with
    | some (some location) => return some (position, location)
    | _ => findFrom number resource left (position + 1)

/-- The place of a class. -/
def find (number : Nat) (className : String) : Work (Option Location) := do
  checkOpen number
  let count := (← Work.classpath number).roots.length
  return (← findFrom number (resourceOfClass className) count 0).map (·.2)

/-- A class with its octets. -/
def resolve (number : Nat) (className : String) : Work Source := do
  checkOpen number
  let count := (← Work.classpath number).roots.length
  match ← findFrom number (resourceOfClass className) count 0 with
  | none => throw (.classNotFound className)
  | some (position, location) =>
    match ← askRoot number position (fun tree root => root.read tree location) with
    | some content => return ⟨className, content, location⟩
    | none => throw (.classNotFound className)

/-- Whether there is a class of a name. -/
def contains (number : Nat) (className : String) : Work Bool := do
  return (← find number className).isSome

/-- Close a classpath. -/
def close (number : Nat) : Work Unit :=
  modify fun workspace =>
    { workspace with classpaths := workspace.classpaths.modify number Context.close }

end Classpath
end ClassLoom
