namespace ClassLoom
namespace Files

/-!
# Paths as they are written

A path is kept as it was given, up to empty and `.` segments, which never matter.  A `..` segment
does matter, since the segment before it may turn out to be a link, so it stays.  Nothing here looks
at a file system.
-/

/-- The pieces of a text between separators; there is always one more piece than separators. -/
def splitAt (separator : Char) : List Char → List (List Char)
  | [] => [[]]
  | c :: rest =>
    if c == separator then [] :: splitAt separator rest
    else match splitAt separator rest with
      | [] => [[c]]
      | piece :: pieces => (c :: piece) :: pieces

/-- The segments of a text between slashes, empty ones included. -/
def segments (text : String) : List String :=
  (splitAt '/' text.toList).map String.ofList

/-- Whether a segment names nothing. -/
def isIdle (segment : String) : Bool := segment == "" || segment == "."

/-- A path: slashes at the front (none, one, or the distinct two), and segments. -/
structure Path where
  root : String
  parts : List String
  deriving Repr, DecidableEq, Inhabited

namespace Path

/-- Read a path.  Two leading slashes are kept apart from one; three and more count as one. -/
def ofString (text : String) : Path :=
  let leading := (text.toList.takeWhile (· == '/')).length
  let root := if leading = 0 then "" else if leading = 2 then "//" else "/"
  ⟨root, (segments text).filter fun s => !isIdle s⟩

/-- Write a path; the path without segments is the current directory. -/
def toString (path : Path) : String :=
  if path.root == "" && path.parts.isEmpty then "."
  else path.root ++ "/".intercalate path.parts

instance : ToString Path := ⟨toString⟩

/-- The last segment, empty if there is none. -/
def name (path : Path) : String := path.parts.getLastD ""

/-- The path without its last segment. -/
def parent (path : Path) : Path := { path with parts := path.parts.dropLast }

/-- The path one segment further down. -/
def child (path : Path) (segment : String) : Path := { path with parts := path.parts ++ [segment] }

/-- The path several segments further down; segments that name nothing are skipped. -/
def descend (path : Path) (below : List String) : Path :=
  { path with parts := path.parts ++ below.filter fun s => !isIdle s }

/-- A path with another last segment. -/
def withName (path : Path) (name : String) : Path := path.parent.descend (segments name)

/-- The extension of the last segment, with its dot; a dot at either end makes none. -/
def extension (path : Path) : String :=
  let reversed := path.name.toList.reverse
  let after := reversed.takeWhile (· != '.')
  let before := (reversed.dropWhile (· != '.')).drop 1
  if after.isEmpty || before.isEmpty || after.length == reversed.length then ""
  else String.ofList ('.' :: after.reverse)

/-- Every path above this one, nearest first. -/
def parents (path : Path) : List Path :=
  (List.range path.parts.length).reverse.map fun n => { path with parts := path.parts.take n }

/-- The path below a starting directory, unless it starts at the top itself. -/
def from_ (path start : Path) : Path :=
  if path.root == "" then { start with parts := start.parts ++ path.parts } else path

/-- A path from the top in which every step up has been taken, whatever is there. -/
def straight (path : Path) : Path :=
  { path with
    parts := path.parts.foldl
      (fun kept segment => if segment == ".." then kept.dropLast else kept ++ [segment]) [] }

theorem parent_child (path : Path) (segment : String) : (path.child segment).parent = path := by
  simp [child, parent]

theorem name_child (path : Path) (segment : String) : (path.child segment).name = segment := by
  simp [child, name]

end Path
end Files
end ClassLoom
