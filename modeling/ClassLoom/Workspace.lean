import ClassLoom.Config.Layers
import ClassLoom.Files.Guarded
import ClassLoom.Log.Record
import ClassLoom.Rebuild.Rebuilder
import ClassLoom.Run.Target
import ClassLoom.Transformer.Plugin

namespace ClassLoom

/-!
# The workspace

Everything that work can change is in one value: the file tree, the loggers with what they have
written, and the classpaths, invokers and configurations that have been made, each known by its
number.  Work that fails keeps the changes it has made so far.

The behaviour of transformers is no part of the tool.  Work that calls them is told by a host what
they do, and what is said of such work is said for every host.
-/

open Files (FileTree FileWork)

/-- The objects that a session made last. -/
structure Desk where
  config : Option Nat
  classpath : Option Nat
  rebuilder : Option Rebuild.Rebuilder
  manifest : Option Rebuild.Manifest
  invoker : Option Nat
  target : Option Run.Target
  resolver : Option Run.Resolver
  logger : Option String
  /-- How many log contexts the session has entered. -/
  entered : Nat
  deriving Inhabited

def Desk.empty : Desk := ⟨none, none, none, none, none, none, none, none, 0⟩

/-- All state. -/
structure Workspace where
  files : FileTree
  loggers : List Log.Logger
  /-- The name of the logger that is used where none is given. -/
  logger : String
  /-- The log contexts that have been entered, outermost first. -/
  contexts : List Log.Context
  /-- What listeners have heard, first to last. -/
  heard : List String
  /-- What has been written to the console. -/
  console : List String
  /-- What has been printed. -/
  printed : String
  registry : Transformer.Registry
  classpaths : List Classpath.Context
  invokers : List Transformer.Invoker
  configs : List Config.Layers
  /-- The configuration that is used where none is given. -/
  globalConfig : Option Nat
  environment : List (String × String)
  desk : Desk
  deriving Inhabited

/-- Work on a workspace. -/
abbrev Work (α : Type) := ExceptT Failure (StateM Workspace) α

/-- What transformers do: a call with the classpath that they see, the name and the octets of a
class, and the steps that the making of an instance runs. -/
structure Host where
  transform : Transformer.Ready → Option Nat → String → Bytes → Work Config.Value
  construct : Nat → Work Unit

namespace Work

/-- An outcome as work. -/
def ofOutcome {α : Type} : Outcome α → Work α
  | .ok value => return value
  | .error failure => throw failure

/-- Work on the file tree. -/
def onFiles {α : Type} (work : FileWork α) : Work α := fun workspace =>
  let (outcome, files) := work workspace.files
  (outcome, { workspace with files })

/-- Do something at the end, whatever the outcome. -/
def ensuring {α : Type} (work : Work α) (finish : Workspace → Workspace) : Work α :=
  fun workspace =>
    let (outcome, workspace) := work workspace
    (outcome, finish workspace)

/-- The outcome of work, as a value. -/
def attempt {α : Type} (work : Work α) : Work (Outcome α) := fun workspace =>
  let (outcome, workspace) := work workspace
  (.ok outcome, workspace)

/-- Put another failure in the stead of a failure, where a function says so. -/
def recast {α : Type} (change : Failure → Option Failure) (work : Work α) : Work α :=
  fun workspace =>
    match work workspace with
    | (.error failure, workspace) => (.error ((change failure).getD failure), workspace)
    | done => done

/-- The file tree. -/
def files : Work FileTree := do return (← get).files

/-- A question to the file tree; a refusal is a fault. -/
def ask {α : Type} (question : FileTree → Except Files.FileError α) : Work α :=
  onFiles (FileWork.ask question)

/-- The classpath of a number. -/
def classpath (number : Nat) : Work Classpath.Context := do
  return (← get).classpaths.getD number ⟨[], true⟩

/-- Replace the classpath of a number. -/
def setClasspath (number : Nat) (context : Classpath.Context) : Work Unit :=
  modify fun workspace =>
    { workspace with classpaths := workspace.classpaths.set number context }

/-- The invoker of a number. -/
def invoker (number : Nat) : Work Transformer.Invoker := do
  return (← get).invokers.getD number (.new none none)

/-- Change the invoker of a number. -/
def changeInvoker (number : Nat) (change : Transformer.Invoker → Transformer.Invoker) :
    Work Unit :=
  modify fun workspace =>
    { workspace with invokers := workspace.invokers.modify number change }

/-- Keep a new invoker and answer its number. -/
def addInvoker (invoker : Transformer.Invoker) : Work Nat := do
  let number := (← get).invokers.length
  modify fun workspace => { workspace with invokers := workspace.invokers ++ [invoker] }
  return number

/-- Keep a new classpath and answer its number. -/
def addClasspath (context : Classpath.Context) : Work Nat := do
  let number := (← get).classpaths.length
  modify fun workspace => { workspace with classpaths := workspace.classpaths ++ [context] }
  return number

/-- The configuration of a number. -/
def config (number : Nat) : Work Config.Layers := do
  return (← get).configs.getD number .initial

/-- Replace the configuration of a number. -/
def setConfig (number : Nat) (layers : Config.Layers) : Work Unit :=
  modify fun workspace => { workspace with configs := workspace.configs.set number layers }

/-- Keep a new configuration and answer its number. -/
def addConfig (layers : Config.Layers) : Work Nat := do
  let number := (← get).configs.length
  modify fun workspace => { workspace with configs := workspace.configs ++ [layers] }
  return number

end Work
end ClassLoom
