import ClassLoom.Files.Operations
import ClassLoom.Log.Level
import ClassLoom.Zip.Timestamp

namespace ClassLoom
namespace Log

/-!
# Log records and log files

A message is followed by its context, a bar and then every key with its value.  Inner values replace
outer ones of the same key, at the place of the outer one.

A log file is written through the handle that was opened for it.  When the next line would reach the
size limit, the numbered older files are moved up by one, the oldest of them is dropped, and a new
file is started.
-/

open Config (Value)
open Files (FileTree FileError Moment)

/-- Keys with values. -/
abbrev Context := List (String × Value)

/-- Bind a key; a key that is there keeps its place. -/
def Context.set (context : Context) (key : String) (value : Value) : Context :=
  if context.any fun e => e.1 = key then
    context.map fun e => if e.1 = key then (key, value) else e
  else context ++ [(key, value)]

/-- Bind every key of a layer. -/
def Context.update (context layer : Context) : Context :=
  layer.foldl (fun context (key, value) => Context.set context key value) context

/-- The context of nested layers, outermost first. -/
def Context.ofLayers (layers : List Context) : Context :=
  layers.foldl Context.update []

/-- A message with its context. -/
def withContext (message : String) (context : Context) : String :=
  if context.isEmpty then message
  else message ++ " | " ++
    Text.joined " " (context.map fun (key, value) => key ++ "=" ++ value.plain)

/-- A log record: who logs, how severe it is, the message, and the description of an error. -/
structure Record where
  logger : String
  level : Level
  message : String
  error : Option String

/-- A moment as date and time of day. -/
def momentText (moment : Moment) : String :=
  let seconds := moment.fdiv 1000000000
  let (year, month, day) := Zip.civilDate (seconds.fdiv 86400)
  let rest := (seconds.fmod 86400).toNat
  Config.Value.dayText year.toNat month day ++ " " ++ Text.padded 2 (rest / 3600) ++ ":" ++
    Text.padded 2 (rest / 60 % 60) ++ ":" ++ Text.padded 2 (rest % 60)

/-- The line of a record; the description of an error starts a line of its own. -/
def Record.line (record : Record) (moment : Moment) : String :=
  let head := momentText moment ++ " - " ++ record.logger ++ " - " ++ record.level.name ++ " - " ++
    record.message
  match record.error with
  | none => head
  | some text => (if head.endsWith "\n" then head else head ++ "\n") ++ text

/-- An open log file: its path, the identity of the file that is written, the size limit (none if
zero), and how many older files are kept. -/
structure LogFile where
  path : String
  file : Nat
  maxBytes : Int
  backups : Int
  deriving Repr, DecidableEq, Inhabited

namespace LogFile

/-- Open a file for appending, creating it if it is not there. -/
def openAppend (tree : FileTree) (path : String) : Except FileError (FileTree × Nat) :=
  match tree.openFile path with
  | .ok (_, file) => .ok (tree, file.id)
  | .error (.system error) =>
    if error.cause = .notFound then
      match tree.write path [] with
      | .ok written => .ok (written, tree.nextId)
      | .error error => .error error
    else .error (.system error)
  | .error error => .error error

/-- Append octets to the file with an identity, wherever it is. -/
def append (tree : FileTree) (id : Nat) (content : Bytes) : FileTree :=
  let extend := fun (file : Files.File) =>
    if file.id = id then { file with content := file.content ++ content, modified := tree.clock }
    else file
  { tree with
    entries := tree.entries.map fun (place, entry) => match entry with
      | .file file => (place, .file (extend file))
      | entry => (place, entry)
    removed := tree.removed.map extend }

/-- Make room at the first numbered name by moving every numbered file up. -/
def shift (tree : FileTree) (path : String) : Nat → FileTree
  | 0 => tree
  | count + 1 =>
    let source := if count = 0 then path else path ++ "." ++ toString count
    let target := path ++ "." ++ toString (count + 1)
    let tree :=
      if tree.present source then
        let tree := if tree.present target then (tree.unlink target).toOption.getD tree else tree
        (tree.rename source target).toOption.getD tree
      else if count = 0 && tree.present target then (tree.unlink target).toOption.getD tree
      else tree
    shift tree path count

/-- Start a new file after moving the present one out of the way. -/
def rollOver (log : LogFile) (tree : FileTree) : FileTree × LogFile :=
  let tree := shift tree log.path log.backups.toNat
  match openAppend tree log.path with
  | .ok (tree, id) => (tree, { log with file := id })
  | .error _ => (tree, log)

/-- Write one line. -/
def write (log : LogFile) (tree : FileTree) (line : String) : FileTree × LogFile :=
  let size := ((tree.contentOf log.file).getD []).length
  let ordinary := match tree.stat true log.path with
    | .ok (_, .file _) => true
    | .ok _ => false
    | .error _ => true
  let full := ordinary && 0 < log.maxBytes && log.maxBytes ≤ Int.ofNat (size + line.length + 1)
  let (tree, log) := if full then log.rollOver tree else (tree, log)
  (append tree log.file (Bytes.ofText (line ++ "\n")), log)

end LogFile

/-- Where the records of a logger go: to the listener of a session, to the console, to a file. -/
inductive Handler where
  | listener
  | console
  | file (log : LogFile)
  deriving Repr, DecidableEq, Inhabited

/-- A named logger. -/
structure Logger where
  name : String
  level : Level
  handlers : List Handler
  deriving Repr, Inhabited

end Log
end ClassLoom
