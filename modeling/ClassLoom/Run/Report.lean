import ClassLoom.Config.Value
import ClassLoom.Failure
import ClassLoom.Run.Target

namespace ClassLoom
namespace Run

/-!
# The report of a run
-/

open Config (Value)

/-- What a run has done: classes handed to the transformer, of these changed and left alone,
classes that the filter rejected, entries copied, directories recreated, failures by class, and the
path of the backup. -/
structure Report where
  mode : Mode
  artifact : String
  presented : Nat
  transformed : Nat
  noop : Nat
  filtered : Nat
  copied : Nat
  directories : Nat
  failures : List (String × Failure)
  backup : Option String
  deriving Inhabited

namespace Report

/-- The report of a run that has not started. -/
def start (mode : Mode) (artifact : String) : Report := ⟨mode, artifact, 0, 0, 0, 0, 0, 0, [], none⟩

/-- The report in a log; how long the run took is no part of what is modelled. -/
def summary (report : Report) : Value :=
  .ofFields [("mode", .text report.mode.name), ("artifact", .text report.artifact),
    ("presented", .integer report.presented), ("transformed", .integer report.transformed),
    ("noop", .integer report.noop), ("filtered", .integer report.filtered),
    ("copied", .integer report.copied), ("directories", .integer report.directories),
    ("failed", .integer report.failures.length), ("duration_ms", .real (.ofInt 0))]

/-- Fail if classes have failed. -/
def check (report : Report) : Outcome Unit :=
  if report.failures.isEmpty then .ok () else .error (.transformationFailed report.failures)

end Report
end Run
end ClassLoom
