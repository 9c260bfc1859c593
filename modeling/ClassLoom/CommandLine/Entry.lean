import ClassLoom.CommandLine.Arguments
import ClassLoom.Config.Keeping
import ClassLoom.Log.Loggers
import ClassLoom.Run.Command

namespace ClassLoom
namespace CommandLine

/-!
# Running a command line

The arguments are read and checked, the configuration is put together and becomes the common one,
the log is set up, and the command is carried out.  Failures before the run, and failures that the
run passes on, end in one line on the console and the status one.
-/

open Config (Layers Value)
open Log (Level)

/-- Print a text. -/
def print (text : String) : Work Unit :=
  modify fun workspace => { workspace with printed := workspace.printed ++ text }

/-- Write lines to the console. -/
def complain (lines : List String) : Work Unit :=
  modify fun workspace => { workspace with console := workspace.console ++ lines }

/-- The status after a command line that cannot be read. -/
def misuseStatus : Nat := 2

/-- End as a command line says that is not to be used. -/
def halt {α : Type} : Halt → Work α
  | .shown text => do
    print text
    throw (.exited 0)
  | .refused grammar complaint => do
    complain (grammar.usage ++ [grammar.program ++ ": error: " ++ complaint.message])
    throw (.exited misuseStatus)

/-- Require that a path names a file. -/
def requireFile (path : String) (absent other : CommandLineCause) : Work Unit := do
  let place := Files.Path.ofString path
  let present ← Work.ask fun tree => tree.exists? place
  if !present then throw (.commandLine absent)
  let isFile ← Work.ask fun tree => tree.isFile? place
  if !isFile then throw (.commandLine other)

/-- Check that the files that arguments name are there. -/
def checkArguments (arguments : Arguments) : Work Unit := do
  match arguments.jar with
  | .text jar => requireFile jar (.noSuchArchive jar) (.archiveNotAFile jar)
  | _ => pure ()
  match arguments.config with
  | .text "" => pure ()
  | .text file => requireFile file (.noConfiguration file) (.configurationNotAFile file)
  | _ => pure ()

/-- Read and check a command line. -/
def readArguments (words : List String) : Work Arguments := do
  match Arguments.read words with
  | .error reason => halt reason
  | .ok arguments =>
    checkArguments arguments
    return arguments

/-- Put the configuration together; it becomes the common one. -/
def loadConfiguration (arguments : Arguments) : Work Nat := do
  let number ← Config.make (some Config.systemFile) arguments.config.text? true
  let layers ← Work.config number
  Work.setConfig number (layers.load .commandLine arguments.configuration)
  Config.setCommon (some number)
  return number

/-- The level that arguments and configuration ask for. -/
def logLevel (arguments : Arguments) (logging : Value) : Value :=
  let configured := Run.option logging Config.levelKey
  if arguments.debug then .text "DEBUG"
  else if configured.isTruthy then configured else .text "INFO"

/-- The file that arguments and configuration ask for. -/
def logFile (arguments : Arguments) (logging : Value) : Value :=
  if arguments.logFile.isTruthy then arguments.logFile
  else Run.option logging Config.logFileKey

/-- Open the log file. -/
def openLog (file : Value) : Work Unit := do
  let path ← match file with
    | .text path => pure path
    | .octets bytes => pure ((Bytes.toText? bytes).getD bytes.toCharacters)
    | other =>
      throw (.fault (.wrongType
        ("expected str, bytes or os.PathLike object, not " ++ other.kind)))
  Work.recast (fun failure => match failure with
      | .fault fault =>
        if fault.isSystem then some (.commandLine (.cannotOpenLog file.plain fault)) else none
      | _ => none)
    (Log.addFile Log.commonName path Log.fullSize Log.keptFiles)
  Log.debug Log.commonName ("Logging to file: " ++ file.plain)

/-- Set up the log: the console, and a file if one is named. -/
def setUpLog (arguments : Arguments) (layers : Layers) : Work Unit := do
  let options ← Work.ofOutcome layers.mergedSection
  let logging := Run.option options Config.loggingKey
  let level := logLevel arguments logging
  match Level.ofValue level with
  | .error _ => throw (.commandLine (.invalidLevel level.plain))
  | .ok known =>
    let _ ← Log.create Log.commonName (.text known.name) [.console]
    let file := logFile arguments logging
    if file.isTruthy then openLog file
    Log.setCommon Log.commonName

/-- Close the log; the next one is set up anew. -/
def closeLog : Work Unit := do
  let _ ← Log.close Log.commonName
  Log.resetCommon

/-- Carry out a command line, with the log set up and closed around the run. -/
def carryOut (host : Host) (words : List String) : Work Nat := do
  let arguments ← readArguments words
  let layers ← Work.config (← loadConfiguration arguments)
  setUpLog arguments layers
  let ending ← Work.ensuring
    (Run.run host ⟨.text arguments.command, arguments.jar⟩ layers Log.commonName)
    fun workspace => (closeLog.run workspace).2
  return ending.status

/-- Carry out a command line and answer the exit status. -/
def run (host : Host) (words : List String) : Work Nat := do
  match ← Work.attempt (carryOut host words) with
  | .ok status => return status
  | .error (.exited status) => throw (.exited status)
  | .error .interrupted =>
    complain ["", "Interrupted by user"]
    return Run.interruptedStatus
  | .error failure =>
    let expected := match failure with
      | .commandLine _ => true
      | failure => failure.kind?.isSome
    if expected then complain ["Error: " ++ failure.message]
    else
      complain ["Unexpected error: " ++ failure.message,
        Log.describe failure.kindName failure.message true]
    return 1

end CommandLine
end ClassLoom
