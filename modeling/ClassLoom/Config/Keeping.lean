import ClassLoom.Config.File
import ClassLoom.Workspace

namespace ClassLoom
namespace Config

/-!
# Configurations of a workspace

A workspace keeps every configuration that has been made.  The common one is used where none is
given; it is made from the file of the system, a file of the user, and the variables, when it is
first asked for.
-/

/-- The file of the system. -/
def systemFile : String := "/etc/classweaver/config.yaml"

/-- Make a configuration and answer its number. -/
def make (system user : Option String) (withVariables : Bool) : Work Nat := do
  let workspace ← get
  let environment := if withVariables then some workspace.environment else none
  Work.addConfig (← Work.ofOutcome (Layers.create workspace.files system user environment))

/-- Put a configuration, or none, in the place of the common one. -/
def setCommon (number : Option Nat) : Work Unit :=
  modify fun workspace => { workspace with globalConfig := number }

/-- The number of the common configuration; it is made if there is none. -/
def common (user : Option String) : Work Nat := do
  match (← get).globalConfig with
  | some number => return number
  | none =>
    let number ← make (some systemFile) user true
    setCommon (some number)
    return number

end Config
end ClassLoom
