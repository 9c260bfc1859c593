import ClassLoom.Rebuild.Serializing
import ClassLoom.Rebuild.Swap
import ClassLoom.Run.Processing

namespace ClassLoom
namespace Run

/-!
# Runs over an archive

The entries of the archive are staged in their order: the manifest is kept aside, directories are
recreated, accepted classes are transformed, and everything else is copied.  When all is staged and
the classpath is closed, the new archive is written and put in place.
-/

open Config (Value)
open Files (Path)
open Rebuild (Rebuilder Manifest)

/-- How far staging has come. -/
structure Staging where
  report : Report
  rebuilder : Rebuilder
  manifest : Option Manifest
  deriving Inhabited

/-- Open the archive of a run. -/
def openJar (jar : Path) : Work Classpath.OpenArchive := do
  match Classpath.openArchive (← Work.files) jar with
  | .ok opened => return opened
  | .error cause =>
    if cause.isSystem || cause.isDamage then
      throw (.enumeration (.cannotOpen jar.toString cause))
    else throw (.fault cause)

/-- Read an entry that is kept aside. -/
def readEntry (opened : Classpath.OpenArchive) (member : Zip.Member) : Work Bytes := do
  match opened.read (← Work.files) member with
  | .ok content => return content
  | .error cause =>
    if cause.isSystem || cause.isDamage then
      throw (.enumeration (.cannotReadEntry member.name cause))
    else throw (.fault cause)

/-- Whether the name of an entry is empty, which makes it unusable. -/
def checkName (name : String) : Outcome Unit :=
  if name == "" then .error (.fault .noIndex) else .ok ()

/-- Stage an accepted class. -/
def stageClass (host : Host) (plan : Plan) (context : Context) (staging : Staging)
    (member : Zip.Member) (path : Path) : Work Staging := do
  let candidate : Candidate := ⟨member.name, classOfResource member.name, path⟩
  let (report, target) ← process host plan context staging.report candidate
  match target with
  | none => return { staging with report }
  | some target =>
    let rebuilder ← Work.ofOutcome
      (staging.rebuilder.record member false (!target.isNoop))
    return { staging with report, rebuilder }

/-- Stage an entry. -/
def stageEntry (host : Host) (plan : Plan) (context : Context)
    (opened : Classpath.OpenArchive) (staging : Staging) (member : Zip.Member) : Work Staging := do
  let name := member.name
  let report := staging.report
  if isManifestName name then
    return { staging with manifest := some ⟨member, ← readEntry opened member⟩ }
  Work.ofOutcome (checkName name)
  if isDirectoryName name then
    let (_, rebuilder) ← staging.rebuilder.stageDirectory member
    let report := { report with directories := report.directories + 1 }
    return { staging with report, rebuilder }
  let path ← staging.rebuilder.pathFor name
  if isClassName name && context.filter.accepts path.toString then
    stageClass host plan context staging member path
  else
    let report :=
      if isClassName name then { report with filtered := report.filtered + 1 } else report
    let (_, rebuilder) ← staging.rebuilder.stageCopy opened.file member
    let report := { report with copied := report.copied + 1 }
    return { staging with report, rebuilder }

/-- Stage all entries of an archive. -/
def stageArchive (host : Host) (plan : Plan) (context : Context) (jar : Path)
    (rebuilder : Rebuilder) : Work Staging := do
  let opened ← openJar jar
  opened.archive.members.foldlM (stageEntry host plan context opened)
    ⟨.start .staged jar.toString, rebuilder, none⟩

/-- Clean up after the archive has been replaced; a failure is reported and does no harm. -/
def cleanStaging (plan : Plan) (rebuilder : Rebuilder) : Work Unit := do
  match ← Work.attempt rebuilder.cleanUp with
  | .ok _ => return
  | .error failure =>
    if failure.kind? = some .archive || failure.kind? = some .archiveSwap then
      Log.warning plan.logger
        ("Archive replaced, but staging cleanup failed: " ++ failure.message)
    else throw failure

/-- Stage all entries of an archive in a run of its own; the run fails if a class has failed. -/
def stageInRun (host : Host) (plan : Plan) (path : Path) (elements : List Value)
    (rebuilder : Rebuilder) : Work Staging :=
  inRun host plan .staged (.text path.toString :: elements) fun context => do
    let staging ← stageArchive host plan context path rebuilder
    logStatistics plan context
    Work.ofOutcome staging.report.check
    return staging

/-- Write what has been staged, put it in the place of the archive, and report. -/
def replaceArchive (plan : Plan) (path : Path) (staging : Staging) : Work Report := do
  let _ ← staging.rebuilder.serialize staging.manifest
  let backup := (← staging.rebuilder.finalize).toString
  let report := { staging.report with backup := some backup }
  Log.info plan.logger
    ("Replaced " ++ path.toString ++ ", previous archive kept as " ++ backup)
  if plan.clean then cleanStaging plan staging.rebuilder
  logReport plan report
  return report

/-- Rebuild an archive with its classes transformed. -/
def rebuildJar (host : Host) (plan : Plan) (path : Path) (elements : List Value) : Work Report := do
  let rebuilder ← (Rebuilder.new path plan.policy plan.logger).prepare
  replaceArchive plan path (← stageInRun host plan path elements rebuilder)

/-- Transform the classes of an archive and put the new archive in its place. -/
def transformJar (host : Host) (plan : Plan) (jar : Value) (elements : List Value) :
    Work Report := do
  Work.ofOutcome (checkArchive (← Work.files) (.text jar.plain))
  let path := Path.ofString jar.plain
  Log.inContext (logContext .staged path.toString) (rebuildJar host plan path elements)

end Run
end ClassLoom
