import ClassLoom.Classpath.Lookup

namespace ClassLoom
namespace Rebuild

/-!
# Staging

Every entry of the archive is placed at its path in the staging directory.  An entry whose path
leads out of that directory is refused before anything is written, links included, and so is an entry
that would take the place of another.
-/

open Files (Path FileWork)

/-- Put a failed file operation into a failure of the rebuild. -/
def rebuildFailure (cause : FileFailure → ArchiveCause) : Failure → Option Failure
  | .fileOperation failure => some (.archive (cause failure))
  | _ => none

namespace Rebuilder

/-- Delete what is at a path. -/
def delete (path : Path) (cause : String → FileFailure → ArchiveCause) : Work Unit :=
  let shown := path.toString
  Work.recast (rebuildFailure (cause shown)) (Work.onFiles (FileWork.deleteTree shown))

/-- Delete what an earlier run has left at a path, if there is something. -/
def discard (rebuilder : Rebuilder) (path : Path) (notice : String)
    (cause : String → FileFailure → ArchiveCause) : Work Unit := do
  if ← Work.ask (·.exists? path) then
    Log.debug rebuilder.logger (notice ++ path.toString)
    delete path cause

/-- Take away the staging directory of an earlier run, if that is the policy. -/
def clearStaging (rebuilder : Rebuilder) : Work Unit := do
  let staging := rebuilder.paths.staging
  let shown := staging.toString
  if ← Work.ask (·.exists? staging) then
    match rebuilder.policy with
    | .clean =>
      Log.warning rebuilder.logger ("Removing leftover staging directory: " ++ shown)
      delete staging .cannotDeleteStaging
    | .reuse =>
      Log.warning rebuilder.logger
        ("Staging directory already exists, potential old content present: " ++ shown)

/-- Make the staging directory, unless something else is at its path. -/
def makeStaging (rebuilder : Rebuilder) : Work Unit := do
  let staging := rebuilder.paths.staging
  let shown := staging.toString
  if ← Work.ask (·.exists? staging) then
    if !(← Work.ask (·.isDirectory? staging)) then throw (.archive (.stagingInTheWay shown))
  Work.recast (rebuildFailure (.cannotCreateStaging shown))
    (Work.onFiles (FileWork.createDirectory shown))

/-- Make the staging directory, or go on with the one that is there. -/
def prepare (rebuilder : Rebuilder) : Work Rebuilder := do
  rebuilder.clearStaging
  rebuilder.makeStaging
  let staging := rebuilder.paths.staging
  match (← Work.files).resolve? staging with
  | some place => return { rebuilder with root := some (Files.FileTree.pathOf place) }
  | none => throw (.fault (.runtime ("Symlink loop from " ++ Text.quoted staging.toString)))

/-- The path of an entry in the staging directory. -/
def pathFor (rebuilder : Rebuilder) (name : String) : Work Path := do
  match rebuilder.root with
  | none => throw (.archive .notPrepared)
  | some root =>
    let parts := nameParts name
    if parts.isEmpty then throw (.enumeration (.namelessEntry name))
    let target := root.descend parts
    if Files.FileTree.hasNul target.toString then throw (.fault (.file .embeddedNul))
    match (← Work.files).resolve? target with
    | none => throw (.fault (.runtime ("Symlink loop from " ++ Text.quoted target.toString)))
    | some place =>
      if Files.FileTree.isBelow place root.parts then return target
      else throw (.enumeration (.escapingEntry name))

/-- Remember an entry. -/
def record (rebuilder : Rebuilder) (member : Zip.Member) (isDirectory transformed : Bool) :
    Outcome Rebuilder :=
  let name := member.name
  let key := keyOf name isDirectory
  match rebuilder.staged.lookup key with
  | some previous => .error (.enumeration (.collision previous.name name key))
  | none =>
    let entry : StagedEntry :=
      { name, isDirectory, transformed
        stamp := if transformed then none else some member.stamp
        attributes := member.attributes }
    .ok { rebuilder with staged := rebuilder.staged ++ [(key, entry)] }

/-- Stage a directory entry. -/
def stageDirectory (rebuilder : Rebuilder) (member : Zip.Member) : Work (Path × Rebuilder) := do
  let path ← rebuilder.pathFor member.name
  Work.onFiles (FileWork.createDirectory path.toString)
  return (path, ← Work.ofOutcome (rebuilder.record member true false))

/-- The number of octets that are copied at a time. -/
def copyWidth : Nat := 8192

/-- Copy the content of an entry to a file, part by part; a failure leaves the parts before it. -/
def copyEntry (file : Nat) (member : Zip.Member) (path : String) : Work (Option Fault) := do
  match member.readParts copyWidth (((← Work.files).contentOf file).getD []) with
  | .error error => return some (.archive error)
  | .ok (parts, stop) =>
    let tree ← Work.files
    match tree.write path [] with
    | .error error => return some (.file error)
    | .ok emptied =>
      let content := (Files.copyStream parts []).2
      let written := match emptied.write path content with
        | .ok written => written
        | .error _ => emptied
      modify fun workspace => { workspace with files := written }
      return stop.map Fault.archive

/-- Stage a file entry as it is; `file` is the opened archive. -/
def stageCopy (rebuilder : Rebuilder) (file : Nat) (member : Zip.Member) :
    Work (Path × Rebuilder) := do
  let path ← rebuilder.pathFor member.name
  Work.onFiles (FileWork.createDirectory path.parent.toString)
  match ← copyEntry file member path.toString with
  | some cause =>
    if cause.isSystem || cause.isDamage then
      throw (.enumeration (.cannotCopy member.name cause))
    else throw (.fault cause)
  | none => return (path, ← Work.ofOutcome (rebuilder.record member false false))

end Rebuilder
end Rebuild
end ClassLoom
