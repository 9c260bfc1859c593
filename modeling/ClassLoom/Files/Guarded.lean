import ClassLoom.Failure
import ClassLoom.Files.Operations

namespace ClassLoom
namespace Files

/-!
# File operations as the tool performs them

The operations of the file system, with their refusals turned into failures that name what was to be
done.  A path that holds a NUL is none of the file system's refusals and stays a fault.
-/

/-- Work on a file tree, which keeps what it did when it fails. -/
abbrev FileWork (α : Type) := ExceptT Failure (StateM FileTree) α

namespace FileWork

/-- The failure of an action. -/
def failureOf (action : FileAction) : FileError → Failure
  | .system error => .fileOperation ⟨action, some error⟩
  | .embeddedNul => .fault (.file .embeddedNul)

/-- Answer what an operation answers, or fail as an action. -/
def answer {α : Type} (action : FileAction) : Except FileError α → FileWork α
  | .ok value => return value
  | .error error => throw (failureOf action error)

/-- Go on with the tree that an operation makes, or fail as an action. -/
def change (action : FileAction) (operation : FileTree → Except FileError FileTree) :
    FileWork Unit := do
  match operation (← get) with
  | .ok tree => set tree
  | .error error => throw (failureOf action error)

/-- Go on with the tree that an operation reaches, and fail as an action if it stopped there. -/
def reach (action : FileAction) (operation : FileTree → FileTree × Option FileError) :
    FileWork Unit := do
  let (tree, error) := operation (← get)
  set tree
  match error with
  | none => return
  | some error => throw (failureOf action error)

/-- Ask the file tree; a refusal is a fault. -/
def ask {α : Type} (question : FileTree → Except FileError α) : FileWork α := do
  match question (← get) with
  | .ok value => return value
  | .error error => throw (.fault (.file error))

/-- Read a whole file. -/
def load (path : String) : FileWork Bytes := do
  answer (.read path) ((← get).read path)

/-- Make a directory and what is missing above it. -/
def createDirectory (path : String) : FileWork Unit :=
  reach (.createDirectory path) fun tree =>
    if FileTree.hasNul path then (tree, some .embeddedNul)
    else tree.makeDirectories (path.length + 1) path

/-- Replace the content of a file. -/
def writeFile (path : String) (content : Bytes) : FileWork Unit :=
  change (.write path) fun tree => tree.write path content

/-- Replace the content of a file after making its directory. -/
def writeFileInParents (path : String) (content : Bytes) : FileWork Unit := do
  createDirectory (Path.ofString path).parent.toString
  writeFile path content

/-- Delete a file, a link, or a directory with all below it; nothing is there to delete is no
failure. -/
def deleteTree (path : String) : FileWork Unit := do
  let target := Path.ofString path
  let action := FileAction.delete path
  let present ← ask (·.exists? target)
  let link ← if present then pure false else ask (·.isLink? target)
  if present || link then
    let isDirectory ← answer action ((← get).isDirectory? target)
    let isLink ← if isDirectory then answer action ((← get).isLink? target) else pure false
    if isDirectory && !isLink then
      reach action fun tree => tree.removeDirectory target.toString
    else change action fun tree => tree.unlink target.toString

/-- Rename a file; the target must not exist. -/
def renameFile (source target : String) : FileWork Unit := do
  let action := FileAction.rename source target
  if ← ask (·.exists? (Path.ofString target)) then throw (.fileOperation ⟨action, none⟩)
  change action fun tree => tree.rename source target

/-- Set the time of the last change, now if none is given; answers whether that was possible. -/
def touch (path : String) (moment : Option Moment) : FileWork Bool := do
  let tree ← get
  match tree.setModified path (moment.getD tree.clock) with
  | .ok tree =>
    set tree
    return true
  | .error (.system _) => return false
  | .error .embeddedNul => throw (.fault (.file .embeddedNul))

end FileWork

/-- A source of octets: where it is, and how it is read.  Asked for a number of octets, it answers some
and goes on, and at its end it answers none. -/
structure Source (σ : Type) where
  state : σ
  read : Int → σ → Bytes × σ

namespace Source

variable {σ : Type}

/-- What a source answers when it is asked for a number of octets, and what is left of it. -/
def next (source : Source σ) (width : Int) : Bytes × Source σ :=
  let (part, state) := source.read width source.state
  (part, { source with state })

/-- A stream whose content is at hand; a negative number asks for all of it. -/
def ofBytes (content : Bytes) : Source Bytes where
  state := content
  read width content :=
    if width < 0 then (content, []) else (content.take width.toNat, content.drop width.toNat)

/-- Go on copying until the source answers nothing: the octets that it answers are counted and put
behind what has been copied.  A source that never ends has no copy. -/
def copyRest (source : Source σ) (width : Int) (copied : Nat × Bytes) : Option (Nat × Bytes) :=
  let (part, rest) := source.next width
  if part.isEmpty then some copied
  else rest |>.copyRest width (copied.1 + part.length, copied.2 ++ part)
partial_fixpoint

/-- Copy a source behind what a target holds, asking for a number of octets at a time; answers the
number of copied octets and the target. -/
def copyTo (source : Source σ) (width : Int) (target : Bytes) : Option (Nat × Bytes) :=
  source.copyRest width (0, target)

end Source

/-- The parts of a stream that is read a number of octets at a time; a negative number reads all at
once, and zero reads nothing. -/
def streamParts (width : Int) (content : Bytes) : List Bytes :=
  if width = 0 then []
  else if width < 0 then (if content.isEmpty then [] else [content])
  else go width.toNat (content.length + 1) content
where
  go (width : Nat) : Nat → Bytes → List Bytes
    | 0, _ => []
    | fuel + 1, content =>
      if content.isEmpty then [] else content.take width :: go width fuel (content.drop width)

/-- What copying a stream that is read in these parts comes to. -/
def copyStream (parts : List Bytes) (target : Bytes) : Nat × Bytes :=
  parts.foldl (fun (count, target) part => (count + part.length, target ++ part)) (0, target)

end Files
end ClassLoom
