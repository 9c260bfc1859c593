import ClassLoom.Config.File
import ClassLoom.Run.Request

namespace ClassLoom
namespace Run

/-!
# Commands

A command reads the section of a configuration, carries out a run, and ends with an exit status.
The tool's own failures and interruptions end in the log; every other failure is passed on.
-/

open Config (Value)

/-- A command: its name and the archive it is given, each null if there is none. -/
structure Command where
  name : Value
  jar : Value
  deriving Inhabited

/-- How a command ends: its exit status, and its report if it succeeds. -/
structure Ending where
  status : Nat
  report : Option Report
  deriving Inhabited

/-- The exit status after an interruption. -/
def interruptedStatus : Nat := 130

/-- An option of a section. -/
def option (options : Value) (name : String) : Value :=
  match options with
  | .mapping entries => Value.field entries name
  | _ => .null

/-- What a section says about stopping at the first failure; a run does unless something else is
configured. -/
def failFast (options : Value) : Value :=
  match option options Config.failFastKey with
  | .null => .boolean true
  | value => value

/-- Whether a run stops at the first failure. -/
def stopsAtFailure (options : Value) : Bool := (failFast options).isTruthy

/-- What becomes of the staging directory before and after a run. -/
structure StagingOptions where
  policy : Config.StagingPolicy
  cleanAfter : Bool
  deriving Repr, DecidableEq, Inhabited

/-- The staging options of a section. -/
def stagingOptions (options : Value) : Outcome StagingOptions :=
  let staging := option options Config.stagingKey
  match if staging.isTruthy then staging else .mapping [] with
  | .mapping staging => do
    let policy ← memberOf Config.StagingPolicy.ofName? "StagingPolicy" .reuse
      (Value.field staging Config.policyKey)
    return ⟨policy, (Value.field staging Config.cleanAfterKey).isTruthy⟩
  | other => notAMapping other

/-- Transform an archive as a section says. -/
def runTransform (host : Host) (command : Command) (options : Value) (logger : String) :
    Work Report := do
  let transformer := option options Config.transformerKey
  if !transformer.isTruthy then throw (.validation .transformerMissing)
  Log.info logger ("Transforming archive: " ++ command.jar.plain)
  let staging ← Work.ofOutcome (stagingOptions options)
  let plan : Plan :=
    ⟨specOf transformer, option options Config.filterKey, stopsAtFailure options,
      staging.policy, staging.cleanAfter, logger⟩
  let elements ← Work.ofOutcome (givenItems (option options Config.classpathKey))
  transformJar host plan command.jar elements

/-- Carry out a build run as a section says. -/
def runBuild (host : Host) (options : Value) (logger : String) : Work Report := do
  let request ← Work.ofOutcome (Request.ofSection options)
  Log.info logger
    ("Processing " ++ request.scope.name ++ " classes: " ++ request.target.plain)
  processClasses host request none (stopsAtFailure options) logger

/-- Carry out a command. -/
def carryOut (host : Host) (command : Command) (configuration : Config.Layers) (logger : String) :
    Work Report := do
  let options ← Work.ofOutcome configuration.validated
  let report ←
    match command.name with
    | .text "transform" => runTransform host command options logger
    | .text "process-classes" => runBuild host options logger
    | other => throw (.validation (.unknownCommand other.plain))
  Log.info logger ("Run statistics: " ++ report.summary.quoted)
  return report

/-- Run a command to its end. -/
def run (host : Host) (command : Command) (configuration : Config.Layers) (logger : String) :
    Work Ending := do
  match ← Work.attempt (carryOut host command configuration logger) with
  | .ok report => return ⟨0, some report⟩
  | .error .interrupted =>
    Log.info logger "Interrupted by user"
    return ⟨interruptedStatus, none⟩
  | .error failure =>
    match failure.kind? with
    | none => throw failure
    | some _ =>
      Log.write logger .error ("Run failed: " ++ failure.message)
        [("error_code", .text failure.code.name)] none
      return ⟨failure.code.exitStatus, none⟩

end Run
end ClassLoom
