import ClassLoom.Files.Tree

namespace ClassLoom
namespace Files
namespace FileTree

/-!
# Operations on a file tree

Every operation answers either the tree afterwards or the reason for refusing, and a refused
operation changes nothing.  The two operations that go through several places, making a chain of
directories and removing a whole directory, answer the tree that they reached together with the
refusal, because what they did before it stays done.
-/

/-- The path without slashes at its end, unless it is nothing but slashes. -/
def withoutTrailing (raw : String) : String :=
  let kept := (raw.toList.reverse.dropWhile (· == '/')).reverse
  if kept.isEmpty then raw else String.ofList kept

/-- The last segment of a raw path. -/
def lastSegment (raw : String) : String := (segments (withoutTrailing raw)).getLastD ""

/-- The file that a raw path names. -/
def openFile (tree : FileTree) (raw : String) : Except FileError (Location × File) :=
  match tree.stat true raw with
  | .ok (place, .file file) => .ok (place, file)
  | .ok (_, _) => .error (.on raw .isDirectory)
  | .error error => .error error

/-- The content of a file. -/
def read (tree : FileTree) (raw : String) : Except FileError Bytes :=
  (tree.openFile raw).map (·.2.content)

/-- Give a file its content, creating it in an existing directory if it is not there.  A link at
the end is followed, also when its target is missing.  A path with a slash at its end is taken for
that of a directory. -/
def write (tree : FileTree) (raw : String) (content : Bytes) : Except FileError FileTree :=
  if hasNul raw then .error .embeddedNul
  else
    let spot :=
      if raw.endsWith "/" then
        (tree.find false (withoutTrailing raw)).bind fun _ => .error .isDirectory
      else tree.find true raw
    match spot with
    | .ok (.found place (.file file)) =>
      .ok (tree.put place (.file { file with content, modified := tree.clock }))
    | .ok (.found _ _) => .error (.on raw .isDirectory)
    | .ok (.missing directory name) =>
      .ok { tree.put (directory ++ [name]) (.file ⟨tree.nextId, content, tree.clock⟩) with
            nextId := tree.nextId + 1 }
    | .error cause => .error (.on raw cause)

/-- Set the time of the last change; a directory takes it without a trace. -/
def setModified (tree : FileTree) (raw : String) (moment : Moment) : Except FileError FileTree :=
  match tree.stat true raw with
  | .ok (place, .file file) => .ok (tree.put place (.file { file with modified := moment }))
  | .ok (_, _) => .ok tree
  | .error error => .error error

/-- Make one directory. -/
def makeDirectory (tree : FileTree) (raw : String) : Except FileError FileTree :=
  if hasNul raw then .error .embeddedNul
  else match tree.find false (withoutTrailing raw) with
    | .ok (.found _ _) => .error (.on raw .alreadyExists)
    | .ok (.missing directory name) => .ok (tree.put (directory ++ [name]) .directory)
    | .error cause => .error (.on raw cause)

/-- Whether a raw path names anything; a path that cannot be looked up counts as absent. -/
def present (tree : FileTree) (raw : String) : Bool := (tree.stat true raw).toOption.isSome

/-- Head and tail of a raw path around its last slash; the head loses its final slashes unless it
is nothing but slashes. -/
def splitLast (raw : String) : String × String :=
  let reversed := raw.toList.reverse
  let tail := (reversed.takeWhile (· != '/')).reverse
  let head := (reversed.dropWhile (· != '/')).reverse
  (if head.all (· == '/') then String.ofList head
    else withoutTrailing (String.ofList head), String.ofList tail)

/-- What is above the directory that a raw path asks for, and the last segment.  A slash at the end
of the path does not count. -/
def headAndTail (raw : String) : String × String :=
  let (head, tail) := splitLast raw
  if tail == "" then splitLast head else (head, tail)

/-- Make one directory; that it is already there is no failure. -/
def makeLastDirectory (tree : FileTree) (raw : String) : FileTree × Option FileError :=
  match tree.makeDirectory raw with
  | .ok tree => (tree, none)
  | .error .embeddedNul => (tree, some .embeddedNul)
  | .error error =>
    match tree.stat true raw with
    | .ok (_, .directory) => (tree, none)
    | _ => (tree, some error)

/-- Go on after an attempt to make what is above a directory, if all that is wrong is that something
is there. -/
def passExisting : FileTree × Option FileError → FileTree × Option FileError
  | (tree, some (.system error)) =>
    if error.cause = .alreadyExists then (tree, none) else (tree, some (.system error))
  | other => other

/-- Make a directory and the directories above it, as far as they are missing.  A directory that is
already there is no failure. -/
def makeDirectories : Nat → FileTree → String → FileTree × Option FileError
  | 0, tree, _ => (tree, none)
  | fuel + 1, tree, raw =>
    let (head, tail) := headAndTail raw
    let missing := head != "" && tail != "" && !tree.present head
    let above := if missing then passExisting (makeDirectories fuel tree head) else (tree, none)
    match above with
    | (tree, some error) => (tree, some error)
    | (tree, none) => if missing && tail == "." then (tree, none) else tree.makeLastDirectory raw

/-- Remove a file or a link. -/
def unlink (tree : FileTree) (raw : String) : Except FileError FileTree :=
  match tree.stat false raw with
  | .ok (_, .directory) => .error (.on raw .isDirectory)
  | .ok (place, _) => .ok (tree.drop place)
  | .error error => .error error

/-- A directory without all that is in it. -/
def emptied (tree : FileTree) (place : Location) : FileTree :=
  (tree.children place).foldl (fun tree (name, _) => tree.drop (place ++ [name])) tree

/-- Remove everything in a directory and then the directory itself.  The path is looked up again for
the directory itself, which fails if it led through what has been removed, or if its name does not
end in a segment of its own. -/
def removeDirectory (tree : FileTree) (raw : String) : FileTree × Option FileError :=
  match tree.stat false raw with
  | .ok (place, .directory) =>
    let emptied := tree.emptied place
    match emptied.stat false raw with
    | .error error => (emptied, some error)
    | .ok _ =>
      let segment := lastSegment raw
      if place = [] then (emptied, some (.on raw .busy))
      else if isIdle segment then (emptied, some (.on raw .invalid))
      else if segment == ".." then (emptied, some (.on raw .notEmpty))
      else (emptied.drop place, none)
  | .ok _ => (tree, some (.on raw .notDirectory))
  | .error error => (tree, some error)

/-- Rename a file, a link or a directory.  A file replaces a file or link; a directory replaces an
empty directory. -/
def rename (tree : FileTree) (source target : String) : Except FileError FileTree :=
  let fail := fun cause => Except.error (.system ⟨cause, some source, some target⟩)
  let special := fun raw => isIdle (lastSegment raw) || lastSegment raw == ".."
  if hasNul source || hasNul target then .error .embeddedNul
  else if source == "" || target == "" then fail .notFound
  else match tree.find false (withoutTrailing source), tree.find false (withoutTrailing target) with
    | .error cause, _ => fail cause
    | _, .error cause => fail cause
    | .ok origin, .ok aim =>
      if special source || special target then fail .busy
      else match origin with
        | .missing _ _ => fail .notFound
        | .found place entry =>
          let isDirectory := entry matches .directory
          if !isDirectory && (source.endsWith "/" || target.endsWith "/") then fail .notDirectory
          else match aim with
            | .missing directory name =>
              let goal := directory ++ [name]
              if isBelow goal place then fail .invalid else .ok (tree.move place goal)
            | .found goal existing =>
              if goal = place then .ok tree
              else if isBelow goal place then fail .invalid
              else if isBelow place goal then fail .notEmpty
              else match isDirectory, existing with
                | true, .directory =>
                  if (tree.children goal).isEmpty then .ok ((tree.drop goal).move place goal)
                  else fail .notEmpty
                | true, _ => fail .notDirectory
                | false, .directory => fail .isDirectory
                | false, _ => .ok ((tree.drop goal).move place goal)

/-- Insert a name among names that are in their order, which is that of code points. -/
def insertName (item : String × Entry) : List (String × Entry) → List (String × Entry)
  | [] => [item]
  | first :: rest => if item.1 ≤ first.1 then item :: first :: rest else first :: insertName item rest

/-- Names in their order.  A listing is short, and the order is computed by insertion so that it can be
looked through in a proof. -/
def inOrder (items : List (String × Entry)) : List (String × Entry) := items.foldr insertName []

/-- The names in a directory, in their order, with what they hold. -/
def list (tree : FileTree) (raw : String) : Except FileError (List (String × Entry)) :=
  match tree.stat true raw with
  | .ok (place, .directory) => .ok (inOrder (tree.children place))
  | .ok _ => .error (.on raw .notDirectory)
  | .error error => .error error

/-- Whether a listed name is a directory or a regular file, links followed.  A link whose target is
missing is neither; a link that cannot be followed for another reason is a failure. -/
def listedAs (tree : FileTree) (question : Entry → Bool) (path : String) (entry : Entry) :
    Except FileError Bool :=
  match entry with
  | .link _ =>
    match tree.stat true path with
    | .ok (_, entry) => .ok (question entry)
    | .error (.system error) =>
      if error.cause = .notFound then .ok false else .error (.system error)
    | .error .embeddedNul => .ok false
  | entry => .ok (question entry)

end FileTree
end Files
end ClassLoom
