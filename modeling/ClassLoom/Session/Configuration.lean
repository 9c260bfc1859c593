import ClassLoom.Config.Keeping
import ClassLoom.Session.Desk

namespace ClassLoom
namespace Session

/-!
# The configuration of a session

The session's configuration is the one that it made last.  A change that fails changes nothing.
-/

open Config (Layers)

/-- Make the session's configuration. -/
def newConfig (system user : Option String) (withVariables : Bool) : Work Unit := do
  let number ← Config.make system user withVariables
  place fun desk => { desk with config := some number }

/-- The session's configuration. -/
def configuration : Work Layers := do Work.config (← need Desk.config)

/-- Change the session's configuration. -/
def changeConfig (change : Files.FileTree → Layers → Outcome Layers) : Work Unit := do
  let number ← need Desk.config
  let layers ← Work.config number
  Work.setConfig number (← Work.ofOutcome (change (← Work.files) layers))

/-- What the session's configuration answers to a question. -/
def askConfig {α : Type} (question : Layers → Outcome α) : Work α := do
  Work.ofOutcome (question (← configuration))

end Session
end ClassLoom
