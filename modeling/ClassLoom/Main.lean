import ClassLoom.CommandLine.Entry
import ClassLoom.Session.Script

/-!
# The program

The files below the working directory are read before a command line is carried out, and what it has
changed is written afterwards; the outcome itself is decided by `CommandLine.run`.  Links are read
as what they lead to.  Transformers are those that come with the tool.
-/

namespace ClassLoom
namespace Program

open Files (Entry File FileTree Location)

/-- The place of an absolute path. -/
def placeOf (path : String) : Location := (Files.segments path).filter fun name => name != ""

/-- The path of a place. -/
def pathOf (place : Location) : String := (FileTree.pathOf place).toString

/-- Put every directory down to a place into a tree. -/
def withDirectories (tree : FileTree) (place : Location) : FileTree :=
  (List.range place.length).foldl (fun tree n => tree.put (place.take (n + 1)) .directory) tree

/-- A time of the file system as a moment. -/
def momentOf (time : IO.FS.SystemTime) : Files.Moment := time.sec * 1000000000 + time.nsec.toNat

/-- Read everything below a place. -/
partial def load (tree : FileTree) (place : Location) : IO FileTree := do
  let mut tree := tree
  let directory ← IO.FS.realPath (pathOf place)
  for item in ← directory.readDir do
    let below := place ++ [item.fileName]
    let data ← item.path.metadata
    match data.type with
    | .dir => tree ← load (tree.put below .directory) below
    | .file =>
      let content ← IO.FS.readBinFile item.path
      let file : File := ⟨tree.nextId, content.toList, momentOf data.modified⟩
      tree := { tree.put below (.file file) with nextId := tree.nextId + 1 }
    | _ => pure ()
  return tree

/-- The present moment: that at which a new file is made. -/
def now : IO Files.Moment := do
  let (_, path) ← IO.FS.createTempFile
  let data ← path.metadata
  IO.FS.removeFile path
  return momentOf data.modified

/-- What stands at a place after a run, if the run has changed it. -/
def changes (before after : FileTree) : List (Location × Entry) :=
  after.entries.filter fun (place, entry) =>
    match before.at? place, entry with
    | some (.file old), .file new => old.content != new.content
    | some .directory, .directory => false
    | _, _ => true

/-- The places that a run has emptied, deepest first. -/
def losses (before after : FileTree) : List (Location × Entry) :=
  let gone := before.entries.filter fun (place, entry) =>
    match after.at? place, entry with
    | some (.file _), .file _ => false
    | some .directory, .directory => false
    | _, _ => true
  gone.mergeSort fun a b => decide (b.1.length ≤ a.1.length)

/-- Write what has changed. -/
def store (before after : FileTree) : IO Unit := do
  for (place, entry) in losses before after do
    match entry with
    | .directory => IO.FS.removeDir (pathOf place)
    | _ => IO.FS.removeFile (pathOf place)
  let sorted := (changes before after).mergeSort fun a b => decide (a.1.length ≤ b.1.length)
  for (place, entry) in sorted do
    match entry with
    | .directory => IO.FS.createDirAll (pathOf place)
    | .file file => IO.FS.writeBinFile (pathOf place) ⟨file.content.toArray⟩
    | .link _ => pure ()

/-- The variables that set options. -/
def variableNames : List String :=
  let staging := Config.stagingKey ++ "_"
  let logging := Config.loggingKey ++ "_"
  [Config.transformerKey, Config.filterKey, Config.failFastKey, Config.scopeKey, Config.outputKey,
   Config.testOutputKey, Config.classpathKey, Config.testClasspathKey, staging ++ Config.policyKey,
   staging ++ Config.cleanAfterKey, logging ++ Config.levelKey,
   logging ++ Config.logFileKey].map fun key => Config.variableStart ++ key.toUpper

/-- The variables of the process. -/
def environment : IO Config.Variables :=
  variableNames.filterMapM fun name => do return (← IO.getEnv name).map fun value => (name, value)

/-- The state before a command line is carried out. -/
def start (files : FileTree) (environment : Config.Variables) : Workspace :=
  { files, loggers := [⟨Log.commonName, .info, [.console]⟩], logger := Log.commonName,
    contexts := [], heard := [], console := [], printed := "", registry := .standard [] [],
    classpaths := [], invokers := [], configs := [], globalConfig := none,
    environment := environment, desk := .empty }

/-- Transformers run no procedures. -/
def host : Host := Session.host (fun _ _ => pure ()) 1

/-- The exit status of an outcome. -/
def statusOf : Outcome Nat → Nat
  | .ok status => status
  | .error (.exited status) => status
  | .error _ => 1

/-- Carry out a command line in the working directory. -/
def perform (words : List String) : IO Nat := do
  let directory ← IO.currentDir
  let place := placeOf directory.toString
  let empty : FileTree := ⟨[], [], 0, place, ← now⟩
  let files ← load (withDirectories empty place) place
  let (outcome, workspace) := (CommandLine.run host words).run (start files (← environment))
  store files workspace.files
  IO.print workspace.printed
  IO.eprint (CommandLine.textOf workspace.console)
  return statusOf outcome

end Program
end ClassLoom

/-- The program's entry point. -/
def main (words : List String) : IO UInt32 := do
  return (← ClassLoom.Program.perform words).toUInt32
