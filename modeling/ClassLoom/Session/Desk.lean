import ClassLoom.Rebuild.Serializing
import ClassLoom.Rebuild.Swap
import ClassLoom.Run.Enumeration
import ClassLoom.Run.Processing

namespace ClassLoom
namespace Session

/-!
# Working with single parts

A session works with one object of each kind at a time, the one that it made last.  What needs an
object that has not been made is refused.
-/

open Config (Value)
open Files (Path FileWork)
open Rebuild (Rebuilder Manifest)
open Run (Target Mode)

/-- An object of the desk. -/
def need {α : Type} (part : Desk → Option α) : Work α := do
  match part (← get).desk with
  | some object => return object
  | none => throw .missingObject

/-- Change the desk. -/
def place (change : Desk → Desk) : Work Unit :=
  modify fun workspace => { workspace with desk := change workspace.desk }

/-! ## Classpaths -/

/-- Make a classpath. -/
def newClasspath (elements : List Value) : Work Unit := do
  let number ← Run.openClasspath elements
  place fun desk => { desk with classpath := some number }

/-- The classpath of the session. -/
def classpath : Work Classpath.Context := do Work.classpath (← need Desk.classpath)

/-- Whether there is a class of a name; only texts are names. -/
def hasClass (number : Nat) : Value → Work Bool
  | .text name => Classpath.contains number name
  | _ => return false

/-- What a classpath that is opened for some look-ups says: the answers, and whether it was closed
during and after them. -/
structure Visit where
  found : List Bool
  closedInside : Bool
  closedAfter : Bool

/-- Open a classpath for some look-ups and close it. -/
def visitClasspath (elements classes : List Value) : Work Visit := do
  let number ← Run.openClasspath elements
  let close := fun workspace => ((Classpath.close number).run workspace).2
  let (found, inside) ← Work.ensuring (do
    let found ← classes.mapM (hasClass number)
    return (found, (← Work.classpath number).closed)) close
  return ⟨found, inside, (← Work.classpath number).closed⟩

/-- Ask an element of the session's classpath by its position. -/
def askElement {α : Type} (position : Nat)
    (question : Files.FileTree → Classpath.Root → Outcome α) : Work α := do
  match ← Classpath.askRoot (← need Desk.classpath) position question with
  | some answer => return answer
  | none => throw (.fault .noIndex)

/-! ## Archives -/

/-- Open an archive for reading. -/
def openArchive (path : String) : Work Classpath.OpenArchive := do
  match Classpath.openArchive (← Work.files) (Path.ofString path) with
  | .ok opened => return opened
  | .error cause => throw (.fault cause)

/-- The entries of an archive. -/
def entries (path : String) : Work (List Zip.Member) := do
  let opened ← openArchive path
  opened.archive.members.mapM fun member => do
    Work.ofOutcome (if isManifestName member.name then .ok () else
      if member.name == "" then .error (.fault .noIndex) else .ok ())
    return member

/-- Start to rebuild an archive. -/
def newRebuilder (artifact : String) (policy : Config.StagingPolicy) : Work Unit := do
  let rebuilder := Rebuilder.new (Path.ofString artifact) policy (← Log.globalLogger)
  place fun desk => { desk with rebuilder := some rebuilder, manifest := none }

/-- Keep the state of the rebuilder. -/
def keep (rebuilder : Rebuilder) : Work Unit :=
  place fun desk => { desk with rebuilder := some rebuilder }

/-- Prepare the staging directory. -/
def prepareStaging : Work Path := do
  let rebuilder ← (← need Desk.rebuilder).prepare
  keep rebuilder
  return rebuilder.paths.staging

/-- Stage an entry; the manifest is kept aside. -/
def stageMember (opened : Classpath.OpenArchive) (member : Zip.Member) : Work (Option Path) := do
  let rebuilder ← need Desk.rebuilder
  if isManifestName member.name then
    match opened.read (← Work.files) member with
    | .ok content => place fun desk => { desk with manifest := some ⟨member, content⟩ }
    | .error cause => throw (.fault cause)
    return none
  Work.ofOutcome (if member.name == "" then .error (.fault .noIndex) else .ok ())
  let (path, rebuilder) ←
    if isDirectoryName member.name then rebuilder.stageDirectory member
    else rebuilder.stageCopy opened.file member
  keep rebuilder
  return some path

/-- Stage the entries of the archive, or those of some names. -/
def stageMembers (only : Option (List String)) : Work (List Path) := do
  let opened ← openArchive (← need Desk.rebuilder).paths.archive.toString
  let chosen := opened.archive.members.filter fun member => match only with
    | some names => names.contains member.name
    | none => true
  chosen.filterMapM (stageMember opened)

/-- Remember an entry as a class. -/
def recordClass (name : String) (transformed : Bool) : Work Unit := do
  let rebuilder ← need Desk.rebuilder
  let opened ← openArchive rebuilder.paths.archive.toString
  match opened.archive.find? name with
  | some member => keep (← Work.ofOutcome (rebuilder.record member false transformed))
  | none => throw (.fault (Classpath.noSuchEntry (Text.quoted name)))

/-- Write the new archive, with or without the manifest that was kept aside. -/
def serialize (withManifest : Bool) : Work Path := do
  let rebuilder ← need Desk.rebuilder
  let manifest := (← get).desk.manifest
  rebuilder.serialize (if withManifest then manifest else none)

/-- Put the new archive in place. -/
def finalize : Work Path := do (← need Desk.rebuilder).finalize

/-- Delete the staging directory. -/
def cleanUp : Work Unit := do keep (← (← need Desk.rebuilder).cleanUp)

/-! ## Targets and transformers -/

/-- Make a target. -/
def newTarget (content : Bytes) (path : String) : Work Target := do
  let target := Target.new "pkg.A" ⟨"A.class", none⟩ (Path.ofString path) content
  place fun desk => { desk with target := some target }
  return target

/-- Let the target take the answer of a transformer. -/
def applyTarget (content : Option Bytes) : Work Target := do
  let target ← Work.ofOutcome ((← need Desk.target).apply content)
  place fun desk => { desk with target := some target }
  return target

/-- Make a resolver. -/
def newResolver (mode : Mode) (withClasspath : Bool) : Work Unit := do
  let classpath := (← get).desk.classpath
  let resolver ← Work.ofOutcome
    (Run.Resolver.new mode (if withClasspath then classpath else none))
  place fun desk => { desk with resolver := some resolver }

/-- Resolve a candidate; the target becomes that of the session. -/
def resolveCandidate (relative className path : String) : Work Target := do
  let target ← (← need Desk.resolver).resolve ⟨relative, className, Path.ofString path⟩
  place fun desk => { desk with target := some target }
  return target

/-- Write the target back; the session's own logger, if it has made one, or the common one is
told. -/
def writeBack (mode : Mode) (ownLogger : Bool) : Work Bool := do
  let target ← need Desk.target
  let common ← Log.globalLogger
  let own := (← get).desk.logger.getD common
  Run.writeBack mode (if ownLogger then own else common) target

/-- Make an invoker. -/
def newInvoker (spec : Option Transformer.Plugin) : Work Unit := do
  let number ← Work.addInvoker (.new spec (← get).desk.classpath)
  place fun desk => { desk with invoker := some number }

end Session
end ClassLoom
