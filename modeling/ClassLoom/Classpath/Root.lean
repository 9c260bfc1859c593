import ClassLoom.Files.Path
import ClassLoom.Zip.Archive

namespace ClassLoom
namespace Classpath

/-!
# The elements of a classpath

A classpath is an ordered list of directories and archives.  An archive is opened at the first
look-up; what is kept of it is the identity of the file and its directory, so that the contents are
read from the same file even if it has been renamed since.
-/

open Files (Path)

/-- Where the octets of a class are: a file, or an entry of an archive. -/
structure Location where
  path : String
  entry : Option String
  deriving Repr, DecidableEq, Inhabited

/-- A location in one line. -/
def Location.toString (location : Location) : String :=
  match location.entry with
  | some entry => location.path ++ "!/" ++ entry
  | none => location.path

/-- An archive that is held open. -/
structure OpenArchive where
  file : Nat
  archive : Zip.Archive
  deriving Repr, Inhabited

/-- One element of a classpath. -/
inductive Root where
  | directory (path : Path)
  | archive (path : Path) (opened : Option OpenArchive)
  deriving Repr, Inhabited

/-- How an element shows itself. -/
def Root.shown : Root → String
  | .directory path => "<DirectoryRoot " ++ path.toString ++ ">"
  | .archive path _ => "<ArchiveRoot " ++ path.toString ++ ">"

/-- Whether an archive is held open; directories are never. -/
def Root.isOpen? : Root → Option Bool
  | .directory _ => none
  | .archive _ opened => some opened.isSome

/-- An element without its handle. -/
def Root.close : Root → Root
  | .archive path _ => .archive path none
  | root => root

/-- A classpath: its elements in the order of look-up, and whether it has been closed. -/
structure Context where
  roots : List Root
  closed : Bool
  deriving Repr, Inhabited

/-- How a classpath shows itself. -/
def Context.shown (context : Context) : String :=
  "<ClassPathContext roots=" ++ toString context.roots.length ++
    (if context.closed then " closed>" else " open>")

/-- A closed classpath holds no archive open. -/
def Context.close (context : Context) : Context := ⟨context.roots.map Root.close, true⟩

theorem Context.isOpen_close {context : Context} {root : Root}
    (member : root ∈ context.close.roots) : root.isOpen? ≠ some true := by
  obtain ⟨element, _, rfl⟩ := List.mem_map.1 member
  cases element <;> simp [Root.close, Root.isOpen?]

/-- A resolved class. -/
structure Source where
  className : String
  content : Bytes
  location : Location
  deriving Repr, Inhabited

/-- The segments that a directory is searched with for a resource: those that name something. -/
def resourceSegments (resource : String) : List String :=
  (Files.segments resource).filter fun s => !Files.isIdle s

end Classpath
end ClassLoom
