import ClassLoom.Rebuild.Staging

namespace ClassLoom
namespace Rebuild

/-!
# Writing the new archive

The manifest comes first.  Then the staging directory is gone through, the names in each directory
in their order, and every file and directory that has been staged is written under its own name;
what an earlier run left there is skipped.  A staged entry that is not found is a failure, and after
any failure nothing is left at the path of the copy.
-/

open Files (Path FileWork Moment)

/-- The attributes of a directory that has none. -/
def directoryAttributes : Zip.Attributes := 0o40755 <<< 16 ||| 0x10

/-- The attributes of a file that has none. -/
def fileAttributes : Zip.Attributes := 0o100644 <<< 16

/-- The attributes that are written for an entry without any. -/
def manifestAttributes : Zip.Attributes := 0o600 <<< 16

/-- Attributes, or others if there are none. -/
def attributesOr (attributes default : Zip.Attributes) : Zip.Attributes :=
  if attributes = 0 then default else attributes

/-- The date of a moment in an archive. -/
def stampOf (moment : Moment) : Outcome Zip.Timestamp :=
  match Zip.Timestamp.ofSeconds? (moment.fdiv 1000000000) with
  | some stamp => .ok stamp
  | none => .error (.fault (.packing "'H' format requires 0 <= number <= 65535"))

/-- The record of the manifest. -/
def Manifest.record (manifest : Manifest) : Zip.Record :=
  .ofContent manifest.member.name manifest.member.stamp Zip.methodDeflated
    (attributesOr manifest.member.attributes manifestAttributes) manifest.content

/-- The record of a staged directory. -/
def StagedEntry.directoryRecord (entry : StagedEntry) (clock : Moment) : Outcome Zip.Record := do
  let stamp ← match entry.stamp with
    | some stamp => pure stamp
    | none => stampOf clock
  return .ofContent entry.name stamp Zip.methodStored
    (attributesOr entry.attributes directoryAttributes) []

/-- The record of a staged file. -/
def StagedEntry.fileRecord (entry : StagedEntry) (file : Files.File) : Outcome Zip.Record := do
  let stamp ← match entry.stamp with
    | some stamp => pure stamp
    | none => stampOf file.modified
  return .ofContent entry.name stamp Zip.methodDeflated
    (attributesOr entry.attributes fileAttributes) file.content

/-- Records in the order of writing, each with the key under which it was found. -/
abbrev Written := List (String × Zip.Record)

/-- Write a directory that has been found under a key, if it has been staged. -/
def collectDirectory (rebuilder : Rebuilder) (key : String) (written : Written) : Work Written := do
  match rebuilder.staged.lookup key with
  | some entry =>
    let record ← Work.ofOutcome (entry.directoryRecord (← Work.files).clock)
    return written ++ [(key, record)]
  | none => return written

/-- Write a file that has been found under a key, if it has been staged. -/
def collectFile (rebuilder : Rebuilder) (path : Path) (key : String) (written : Written) :
    Work Written := do
  match rebuilder.staged.lookup key with
  | some entry =>
    let (_, file) ← Work.ask (·.openFile path.toString)
    return written ++ [(key, ← Work.ofOutcome (entry.fileRecord file))]
  | none =>
    Log.debug rebuilder.logger ("Skipping stale staging file: " ++ path.toString)
    return written

/-- Write what is at a path, with all that is below it if it is a directory; `key` is that of a file
there, and `descend` goes through a directory. -/
def collectName (rebuilder : Rebuilder) (descend : Path → String → Written → Work Written)
    (child : Path) (key : String) (written : Written) : Work Written := do
  if ← Work.ask (·.isDirectory? child) then
    descend child (key ++ "/") (← collectDirectory rebuilder (key ++ "/") written)
  else if ← Work.ask (·.isFile? child) then
    collectFile rebuilder child key written
  else return written

/-- Go through a directory below the staging directory; `above` is the key of the directory, and the
first number bounds the depth. -/
def collect (rebuilder : Rebuilder) : Nat → Path → String → Written → Work Written
  | 0, _, _, written => return written
  | depth + 1, directory, above, written => do
    (← Work.ask (·.list directory.toString)).foldlM (fun written (name, _) =>
      collectName rebuilder (collect rebuilder depth) (directory.child name) (above ++ name) written)
      written

/-- The names of the staged entries that have not been written, in their order. -/
def missingNames (rebuilder : Rebuilder) (written : Written) : List String :=
  let missing := rebuilder.staged.filter fun (key, _) => (written.lookup key).isNone
  (missing.map (·.2.name)).mergeSort fun a b => decide (a ≤ b)

namespace Rebuilder

/-- The octets of the new archive. -/
def archiveBytes (rebuilder : Rebuilder) (root : Path) (manifest : Option Manifest) :
    Work Bytes := do
  let written ← collect rebuilder Files.FileTree.pathLimit root "" []
  let missing := missingNames rebuilder written
  if !missing.isEmpty then
    throw (.archive (.stagedEntriesMissing rebuilder.paths.staging.toString missing))
  let first := (manifest.map Manifest.record).toList
  return Zip.encode (first ++ written.map (·.2)) []

/-- Take away what has been written of the copy. -/
def discardCopy (rebuilder : Rebuilder) : Work Unit := do
  let copy := rebuilder.paths.copy.toString
  match ← Work.attempt (Work.onFiles (FileWork.deleteTree copy)) with
  | .ok _ => return
  | .error (.fileOperation failure) =>
    Log.warning rebuilder.logger
      ("Cannot remove partial copy " ++ copy ++ ": " ++ failure.message)
  | .error failure => throw failure

/-- Replace the content of the copy, creating it if it is not there. -/
def putCopy (rebuilder : Rebuilder) (content : Bytes) : Work Unit := Work.onFiles do
  match (← get).write rebuilder.paths.copy.toString content with
  | .ok tree => set tree
  | .error error => throw (.fault (.file error))

/-- Write the copy after opening it. -/
def writeCopy (rebuilder : Rebuilder) (root : Path) (manifest : Option Manifest) : Work Unit := do
  rebuilder.putCopy []
  rebuilder.putCopy (← rebuilder.archiveBytes root manifest)

/-- Take away the copy of an earlier run. -/
def discardLeftover (rebuilder : Rebuilder) : Work Unit :=
  rebuilder.discard rebuilder.paths.copy "Removing leftover copy: " .cannotDeleteCopy

/-- What a failure to write the copy is reported as. -/
def writeFailure (copy : String) : Failure → Failure
  | .fault cause =>
    if cause.isSystem || cause.isDamage || cause.isValue then .archive (.cannotWrite copy cause)
    else .fault cause
  | failure => failure

/-- Write the new archive at the path of the copy, and answer that path. -/
def serialize (rebuilder : Rebuilder) (manifest : Option Manifest) : Work Path := do
  match rebuilder.root with
  | none => throw (.archive .notPrepared)
  | some root =>
    rebuilder.discardLeftover
    match ← Work.attempt (rebuilder.writeCopy root manifest) with
    | .ok _ => return rebuilder.paths.copy
    | .error failure =>
      if !failure.isOrdinary then throw failure
      rebuilder.discardCopy
      throw (writeFailure rebuilder.paths.copy.toString failure)

end Rebuilder
end Rebuild
end ClassLoom
