import ClassLoom.Run.Artifact
import ClassLoom.Run.Report
import ClassLoom.Run.Resolving
import ClassLoom.Run.WriteBack
import ClassLoom.Transformer.Invocation

namespace ClassLoom
namespace Run

/-!
# Processing classes

Each class is resolved, transformed and written back before the next one is looked at.  A run either
stops at the first class whose transformation fails, or goes on, remembers the failure, and fails at
its end.  Whatever happens, the classpath of the run is closed and its log context is left.
-/

open Config (Value)
open Pattern (PathFilter)
open Transformer (Plugin)

/-- What a run is to do. -/
structure Plan where
  transformer : Option Plugin
  filter : Value
  failFast : Bool
  /-- Jar runs: what to do with a staging directory that is there. -/
  policy : Config.StagingPolicy
  /-- Jar runs: whether the staging directory is deleted at the end. -/
  clean : Bool
  logger : String
  deriving Inhabited

/-- The state of a run: its classpath, its filter, and the invoker of its transformer. -/
structure Context where
  mode : Mode
  classpath : Nat
  filter : PathFilter
  invoker : Nat
  deriving Inhabited

/-- The paths among values, up to the first value that is no path, and the complaint about that
one. -/
def elementPaths : List Value → List String × Option Failure
  | [] => ([], none)
  | .text path :: rest =>
    let (paths, failure) := elementPaths rest
    (path :: paths, failure)
  | value :: _ =>
    ([], some (.fault (.wrongType
      ("expected str, bytes or os.PathLike object, not " ++ value.kind))))

/-- A classpath of values; none is made if one of them is no path. -/
def openClasspath (elements : List Value) : Work Nat := do
  let (paths, failure) := elementPaths elements
  let roots ← Classpath.rootsOf paths
  match failure with
  | none => Work.addClasspath ⟨roots, false⟩
  | some failure => throw failure

/-- Open a run, and close its classpath whatever the outcome. -/
def inRun {α : Type} (host : Host) (plan : Plan) (mode : Mode) (elements : List Value)
    (work : Context → Work α) : Work α := do
  let classpath ← openClasspath elements
  let close := fun workspace => ((Classpath.close classpath).run workspace).2
  Work.ensuring (do
    let filter ← Work.ofOutcome (PathFilter.ofSetting plan.filter)
    let invoker ← Work.addInvoker (.new plan.transformer (some classpath))
    let _ ← Transformer.Invoker.prepare host invoker
    work ⟨mode, classpath, filter, invoker⟩) close

/-- Log that a class has failed. -/
def logFailure (logger className : String) (failure : Failure) : Work Unit :=
  Log.exception logger "Transformation failed" failure.kindName failure.message
    (Log.describe failure.kindName failure.message true) [("class_name", .text className)]

/-- Whether a failure is that of a transformation. -/
def isTransformFailure (failure : Failure) : Bool := failure.kind? = some .transform

/-- Resolve, transform and write back a candidate.  There is no target if the transformation has
failed in a run that goes on. -/
def process (host : Host) (plan : Plan) (context : Context) (report : Report)
    (candidate : Candidate) : Work (Report × Option Target) := do
  let report := { report with presented := report.presented + 1 }
  let target ← Resolver.resolve ⟨context.mode, some context.classpath⟩ candidate
  match ← Work.attempt
      (Transformer.Invoker.invoke host context.invoker target.className target.content) with
  | .error failure =>
    if !isTransformFailure failure || plan.failFast then throw failure
    logFailure plan.logger candidate.className failure
    return ({ report with failures := report.failures ++ [(candidate.className, failure)] }, none)
  | .ok answer =>
    let target ← Work.ofOutcome (target.apply answer.content)
    if ← writeBack context.mode plan.logger target then
      return ({ report with transformed := report.transformed + 1 }, some target)
    else return ({ report with noop := report.noop + 1 }, some target)

/-- Log the counts of the transformer's calls. -/
def logStatistics (plan : Plan) (context : Context) : Work Unit := do
  let statistics := (← Work.invoker context.invoker).statistics
  Log.debug plan.logger ("Transformer statistics: " ++ statistics.quoted)

/-- Log the report. -/
def logReport (plan : Plan) (report : Report) : Work Unit :=
  Log.info plan.logger ("Transformed classes: " ++ report.summary.quoted)

/-- The log context of a run. -/
def logContext (mode : Mode) (artifact : String) : Log.Context :=
  [("artifact", .text artifact), ("mode", .text mode.name)]

end Run
end ClassLoom
