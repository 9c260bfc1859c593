import ClassLoom.Log.Loggers
import ClassLoom.Session.Desk

namespace ClassLoom
namespace Session

/-!
# The logger of a session

The session's logger is heard by the session's listener.  Contexts are entered and left one by one.
-/

open Config (Value)
open Log (Context Level Logger)

/-- Make the session's logger. -/
def newLogger (name : String) (level : Value) : Work Logger := do
  let logger ← Log.create name level [.listener]
  place fun desk => { desk with logger := some name }
  return logger

/-- The session's logger. -/
def logger : Work Logger := do Log.named (← need Desk.logger)

/-- Set the level of the session's logger. -/
def setLevel (level : Value) : Work Unit := do Log.setLevel (← need Desk.logger) level

/-- Log a message. -/
def log (level : Level) (message : String) (context : Context) : Work Unit := do
  Log.write (← need Desk.logger) level message context none

/-- Log an error that was never raised: the name of its kind, in full where the kind is one of the
tool's own, and its text. -/
def logError (message kind text : String) (context : Context) : Work Unit := do
  let name ← need Desk.logger
  let (fullName, text) := match ErrorKind.ofName? kind with
    | some own => (own.fullName, (ErrorReport.ofTexts own [some text] none).message)
    | none => (kind, if kind == "KeyError" then Text.quoted text else text)
  Log.exception name message kind text (Log.describe fullName text false) context

/-- Enter a log context. -/
def enterContext (context : Context) : Work Unit := do
  let _ ← need Desk.logger
  modify fun workspace => { workspace with contexts := workspace.contexts ++ [context] }
  place fun desk => { desk with entered := desk.entered + 1 }

/-- Leave the log context that was entered last. -/
def leaveContext : Work Unit := do
  if (← get).desk.entered = 0 then throw .missingObject
  modify fun workspace => { workspace with contexts := workspace.contexts.dropLast }
  place fun desk => { desk with entered := desk.entered - 1 }

/-- Let the session's logger write to a file as well. -/
def logToFile (path : String) (maxBytes backups : Int) : Work Unit := do
  Log.addFile (← need Desk.logger) path maxBytes backups

/-- Take every handler off the session's logger. -/
def closeLog : Work Nat := do Log.close (← need Desk.logger)

end Session
end ClassLoom
