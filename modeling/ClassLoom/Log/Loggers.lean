import ClassLoom.Log.Writing

namespace ClassLoom
namespace Log

/-!
# Loggers

A logger is known by its name, and there is one of each name.  Making a logger anew replaces its
level and its handlers.  One logger is the common one, which is used where none is given; it is made
when it is first asked for.
-/

open Config (Value)

/-- The name of the tool's own logger. -/
def commonName : String := "classweaver"

/-- Make a logger; nothing changes if there is no such level. -/
def create (name : String) (level : Value) (handlers : List Handler) : Work Logger := do
  let level ← Work.ofOutcome (Level.ofValue level)
  let logger : Logger := ⟨name, level, handlers⟩
  modify (install logger)
  return logger

/-- The logger of a name; one that has not been made passes nothing on. -/
def named (name : String) : Work Logger := do
  return (find? name (← get)).getD ⟨name, .warning, []⟩

/-- Set the level of a logger. -/
def setLevel (name : String) (level : Value) : Work Unit := do
  let level ← Work.ofOutcome (Level.ofValue level)
  let logger ← named name
  modify (install { logger with level })

/-- The size at which a log file is full, and how many older files are kept, unless something else
is said. -/
def fullSize : Int := 10 * 1024 * 1024

def keptFiles : Int := 5

/-- Let a logger write to a file as well; the file is opened at its absolute path. -/
def addFile (name path : String) (maxBytes backups : Int) : Work Unit := do
  let files ← Work.files
  let place := (files.absolute (Files.Path.ofString path)).straight.toString
  match LogFile.openAppend files place with
  | .error error => throw (.fault (.file error))
  | .ok (files, id) =>
    modify fun workspace => { workspace with files }
    let logger ← named name
    let handlers := logger.handlers ++ [.file ⟨place, id, maxBytes, backups⟩]
    modify (install { logger with handlers })

/-- Take every handler off a logger; the answer is how many are left. -/
def close (name : String) : Work Nat := do
  let logger ← named name
  modify (install { logger with handlers := [] })
  return (← named name).handlers.length

/-- Make a logger the common one. -/
def setCommon (name : String) : Work Unit :=
  modify fun workspace => { workspace with logger := name }

/-- The common logger, if it has the name that is asked for; otherwise a new one that writes to the
console takes its place. -/
def obtain (name : String) : Work Logger := do
  let current := (← get).logger
  if current == name then named name
  else
    let logger ← create name (.text Level.info.name) [.console]
    setCommon name
    return logger

/-- Forget the common logger: the next one asked for writes to the console. -/
def resetCommon : Work Unit := do
  let _ ← create commonName (.text Level.info.name) [.console]
  setCommon commonName

end Log
end ClassLoom
