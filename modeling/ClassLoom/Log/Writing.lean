import ClassLoom.Workspace

namespace ClassLoom
namespace Log

/-!
# Writing to the log

A record goes to every handler of its logger, if the logger passes its level on.  The contexts that
have been entered are part of every message, and what a call adds comes last.
-/

open Config (Value)

/-- How a failure is described in a log; a failure that was never raised has one line. -/
def describe (name message : String) (raised : Bool) : String :=
  let line := if message == "" then name else name ++ ": " ++ message
  if raised then "Traceback (most recent call last):\n" ++ line else line

/-- Give a record to a handler. -/
def Handler.take (record : Record) (handler : Handler) (workspace : Workspace) :
    Workspace × Handler :=
  match handler with
  | .listener =>
    ({ workspace with heard := workspace.heard ++ [record.level.name ++ " " ++ record.message] },
      .listener)
  | .console =>
    let line := record.line workspace.files.clock
    ({ workspace with console := workspace.console ++ [line] }, .console)
  | .file log =>
    let (files, log) := log.write workspace.files (record.line workspace.files.clock)
    ({ workspace with files }, .file log)

/-- Give a record to handlers one after the other. -/
def takeAll (record : Record) : List Handler → Workspace → Workspace × List Handler
  | [], workspace => (workspace, [])
  | handler :: rest, workspace =>
    let (workspace, handler) := handler.take record workspace
    let (workspace, rest) := takeAll record rest workspace
    (workspace, handler :: rest)

/-- The logger of a name. -/
def find? (name : String) (workspace : Workspace) : Option Logger :=
  workspace.loggers.find? (·.name == name)

/-- Put a logger in the stead of the one of its name. -/
def install (logger : Logger) (workspace : Workspace) : Workspace :=
  { workspace with
    loggers :=
      if workspace.loggers.any (·.name == logger.name) then
        workspace.loggers.map fun l => if l.name == logger.name then logger else l
      else workspace.loggers ++ [logger] }

/-- Log a message with a context of its own and the description of an error. -/
def write (name : String) (level : Level) (message : String) (context : Context)
    (error : Option String) : Work Unit :=
  modify fun workspace =>
    match find? name workspace with
    | none => workspace
    | some logger =>
      if level.passes logger.level then
        let text := withContext message ((Context.ofLayers workspace.contexts).update context)
        let (workspace, handlers) :=
          takeAll ⟨name, level, text, error⟩ logger.handlers workspace
        install { logger with handlers } workspace
      else workspace

def debug (name message : String) : Work Unit := write name .debug message [] none

def info (name message : String) : Work Unit := write name .info message [] none

def warning (name message : String) : Work Unit := write name .warning message [] none

/-- The global logger. -/
def globalLogger : Work String := do return (← get).logger

/-- Log a failure: its kind and its message are added to the context. -/
def exception (name message kind text : String) (description : String) (context : Context) :
    Work Unit :=
  let context := (context.set "exception_type" (.text kind)).set "exception_message" (.text text)
  write name .error message context (some description)

/-- Work inside a log context, which is left whatever the outcome. -/
def inContext {α : Type} (context : Context) (work : Work α) : Work α := do
  modify fun workspace => { workspace with contexts := workspace.contexts ++ [context] }
  Work.ensuring work fun workspace =>
    { workspace with contexts := workspace.contexts.dropLast }

end Log
end ClassLoom
