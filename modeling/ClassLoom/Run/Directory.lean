import ClassLoom.Run.Enumeration
import ClassLoom.Run.Processing

namespace ClassLoom
namespace Run

/-!
# Runs over a directory

Every class file below the root that the filter accepts is transformed where it is.
-/

open Config (Value)
open Files (Path)

/-- Process a candidate unless the filter rejects it. -/
def visitCandidate (host : Host) (plan : Plan) (context : Context) (report : Report)
    (candidate : Candidate) : Work Report := do
  if context.filter.accepts candidate.filePath.toString then
    return (← process host plan context report candidate).1
  else return { report with filtered := report.filtered + 1 }

/-- Transform the class files below a directory. -/
def transformDirectory (host : Host) (plan : Plan) (root : Value) (elements : List Value) :
    Work Report := do
  Work.ofOutcome (checkDirectory (← Work.files) (.text root.plain))
  let artifact := root.plain
  Log.inContext (logContext .inPlace artifact)
    (inRun host plan .inPlace elements fun context => do
      let start := Report.start .inPlace artifact
      let (report, failure) ←
        visitClasses (visitCandidate host plan context) (Path.ofString artifact) start
      match failure with
      | some failure => throw failure
      | none => pure ()
      logStatistics plan context
      Work.ofOutcome report.check
      logReport plan report
      return report)

end Run
end ClassLoom
