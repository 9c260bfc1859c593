import ClassLoom.Bytes
import ClassLoom.Files.Error
import ClassLoom.Files.Path

namespace ClassLoom
namespace Files

/-!
# The file system as a value

A file tree maps places to what is there.  A place is the list of names that leads to it from the
top, through directories only; links are entries like any other and are followed by the search
below, so every place has one name.

A file has an identity besides its place, because a reader that holds it open goes on reading it
when it is renamed, overwritten or removed.  Removed files are kept for such readers.

The search follows at most forty links, which is the limit of the operating system.  It is written
as a recursion over the remaining segments, in which the treatment of a link is a parameter, and an
outer recursion over the number of links that may still be followed; so it ends without any
assumption on the links.
-/

/-- Names from the top of the tree. -/
abbrev Location := List String

/-- A moment, in nanoseconds since 1970. -/
abbrev Moment := Int

/-- A regular file: its identity, its content, and when the content was last changed. -/
structure File where
  id : Nat
  content : Bytes
  modified : Moment
  deriving Repr, DecidableEq, Inhabited

/-- What a place holds. -/
inductive Entry where
  | file (file : File)
  | directory
  | link (target : String)
  deriving Repr, DecidableEq, Inhabited

/-- A file system: what is at each place, removed files, the next file identity, the directory in
which relative paths start, and the present moment. -/
structure FileTree where
  entries : List (Location × Entry)
  removed : List File
  nextId : Nat
  start : Location
  clock : Moment
  deriving Inhabited

namespace FileTree

/-- What is at a place.  The top is always a directory. -/
def at? (tree : FileTree) (place : Location) : Option Entry :=
  if place = [] then some .directory
  else (tree.entries.find? fun entry => entry.1 = place).map (·.2)

/-- Whether one place is at or below another. -/
def isBelow (place top : Location) : Bool := top.isPrefixOf place

/-- The names in a directory with what they hold, in the order of their creation. -/
def children (tree : FileTree) (place : Location) : List (String × Entry) :=
  tree.entries.filterMap fun (p, entry) =>
    match p.getLast? with
    | some name => if p.dropLast = place then some (name, entry) else none
    | none => none

/-- Put an entry at a place, in the stead of what was there. -/
def put (tree : FileTree) (place : Location) (entry : Entry) : FileTree :=
  let entries :=
    if tree.entries.any fun e => e.1 = place then
      tree.entries.map fun e => if e.1 = place then (place, entry) else e
    else tree.entries ++ [(place, entry)]
  { tree with entries }

/-- Take out everything at or below a place. -/
def drop (tree : FileTree) (place : Location) : FileTree :=
  let gone := tree.entries.filterMap fun e =>
    match e.2 with
    | .file file => if isBelow e.1 place then some file else none
    | _ => none
  { tree with
    entries := tree.entries.filter fun e => !isBelow e.1 place
    removed := tree.removed ++ gone }

/-- Give everything at or below a place a new place. -/
def move (tree : FileTree) (source target : Location) : FileTree :=
  { tree with
    entries := tree.entries.map fun e =>
      if isBelow e.1 source then (target ++ e.1.drop source.length, e.2) else e }

/-- The content of the file with an identity, wherever the file is now. -/
def contentOf (tree : FileTree) (id : Nat) : Option Bytes :=
  (tree.entries.findSome? fun e =>
    match e.2 with
    | .file file => if file.id = id then some file.content else none
    | _ => none).or
  ((tree.removed.find? (·.id = id)).map (·.content))

/-! ## The search for a path -/

/-- The end of a search: an entry at its place, or a name that is missing in a directory. -/
inductive Spot where
  | found (place : Location) (entry : Entry)
  | missing (directory : Location) (name : String)
  deriving Repr, DecidableEq, Inhabited

/-- Walk down from a directory.  `onLink` goes on from a link: it is told the directory of the
link, the target, and the segments that are left.  A starting directory that has been removed has
nothing in it, and nothing can be put there. -/
def walk (tree : FileTree) (follow : Bool)
    (onLink : Location → String → List String → Except Cause Spot) :
    Location → List String → Except Cause Spot
  | here, [] => .ok (.found here .directory)
  | here, segment :: rest =>
    if isIdle segment then walk tree follow onLink here rest
    else if segment = ".." then walk tree follow onLink here.dropLast rest
    else if 255 < segment.utf8ByteSize then .error .nameTooLong
    else
      let place := here ++ [segment]
      match tree.at? place with
      | none =>
        if rest.isEmpty && tree.at? here = some .directory then .ok (.missing here segment)
        else .error .notFound
      | some (.file file) =>
        if rest.isEmpty then .ok (.found place (.file file)) else .error .notDirectory
      | some .directory => walk tree follow onLink place rest
      | some (.link target) =>
        if rest.isEmpty && !follow then .ok (.found place (.link target))
        else onLink here target rest

/-- The segments of a raw path.  A slash at the end asks for a directory, as a final `.` does. -/
def rawSegments (raw : String) : List String :=
  let parts := (segments raw).filter (· ≠ "")
  if raw.endsWith "/" && !parts.isEmpty then parts ++ ["."] else parts

/-- Walk down, following at most the given number of links. -/
def search (tree : FileTree) (follow : Bool) : Nat → Location → List String → Except Cause Spot
  | 0, here, rest => walk tree follow (fun _ _ _ => .error .linkLoop) here rest
  | links + 1, here, rest =>
    walk tree follow
      (fun directory target rest =>
        search tree follow links (if target.startsWith "/" then [] else directory)
          (rawSegments target ++ rest))
      here rest

/-- The number of links that a search follows. -/
def linkLimit : Nat := 40

/-- The number of octets that a path may have. -/
def pathLimit : Nat := 4095

/-- Find a raw path; `follow` says whether a link at its end is followed. -/
def find (tree : FileTree) (follow : Bool) (raw : String) : Except Cause Spot :=
  if raw = "" then .error .notFound
  else if pathLimit < raw.utf8ByteSize then .error .nameTooLong
  else
    let top := if raw.startsWith "/" then [] else tree.start
    search tree follow linkLimit top (rawSegments raw)

/-- Whether a raw path holds a NUL. -/
def hasNul (raw : String) : Bool := raw.toList.any (·.toNat = 0)

/-- Find what a raw path names. -/
def stat (tree : FileTree) (follow : Bool) (raw : String) : Except FileError (Location × Entry) :=
  if hasNul raw then .error .embeddedNul
  else match tree.find follow raw with
    | .ok (.found place entry) => .ok (place, entry)
    | .ok (.missing _ _) => .error (.on raw .notFound)
    | .error cause => .error (.on raw cause)

/-- Whether a failed look-up says that nothing is there, and not that looking was impossible. -/
def saysAbsent : FileError → Bool
  | .system error =>
    error.cause = .notFound || error.cause = .notDirectory || error.cause = .linkLoop
  | .embeddedNul => true

/-- A question about what a path names, links followed; `false` if nothing is there. -/
def test (tree : FileTree) (question : Entry → Bool) (path : Path) : Except FileError Bool :=
  match tree.stat true path.toString with
  | .ok (_, entry) => .ok (question entry)
  | .error error => if saysAbsent error then .ok false else .error error

def Entry.isFile : Entry → Bool
  | .file _ => true
  | _ => false

def Entry.isDirectory : Entry → Bool
  | .directory => true
  | _ => false

def Entry.isLink : Entry → Bool
  | .link _ => true
  | _ => false

/-- Whether a path names anything. -/
def exists? (tree : FileTree) (path : Path) : Except FileError Bool :=
  tree.test (fun _ => true) path

/-- Whether a path names a regular file. -/
def isFile? (tree : FileTree) (path : Path) : Except FileError Bool := tree.test Entry.isFile path

/-- Whether a path names a directory. -/
def isDirectory? (tree : FileTree) (path : Path) : Except FileError Bool :=
  tree.test Entry.isDirectory path

/-- Whether a path is itself a link. -/
def isLink? (tree : FileTree) (path : Path) : Except FileError Bool :=
  match tree.stat false path.toString with
  | .ok (_, entry) => .ok (Entry.isLink entry)
  | .error error => if saysAbsent error then .ok false else .error error

/-! ## The place that a path stands for -/

/-- Follow links lexically: a segment that does not exist is taken as it is, and `..` takes back
the segment before it.  `onLink` answers the place of a link's target, or nothing in a loop. -/
def settleFrom (tree : FileTree) (onLink : Location → String → Option Location) :
    Location → List String → Option Location
  | here, [] => some here
  | here, segment :: rest =>
    if isIdle segment then settleFrom tree onLink here rest
    else if segment = ".." then settleFrom tree onLink here.dropLast rest
    else match tree.at? (here ++ [segment]) with
      | some (.link target) =>
        match onLink here target with
        | some place => settleFrom tree onLink place rest
        | none => none
      | _ => settleFrom tree onLink (here ++ [segment]) rest

/-- The same with a bound on the nesting of links. -/
def settle (tree : FileTree) : Nat → Location → List String → Option Location
  | 0, here, rest => settleFrom tree (fun _ _ => none) here rest
  | depth + 1, here, rest =>
    settleFrom tree
      (fun directory target =>
        settle tree depth (if target.startsWith "/" then [] else directory) (segments target))
      here rest

/-- The place that a path stands for, whether or not something is there; nothing if its links lead
in a circle.  Links nest no deeper than there are links. -/
def resolve? (tree : FileTree) (path : Path) : Option Location :=
  tree.settle tree.entries.length (if path.root == "" then tree.start else []) path.parts

/-- The path of a place. -/
def pathOf (place : Location) : Path := ⟨"/", place⟩

/-- A path as it reads from the top; `..` segments stay. -/
def absolute (tree : FileTree) (path : Path) : Path := path.from_ (pathOf tree.start)

end FileTree
end Files
end ClassLoom
