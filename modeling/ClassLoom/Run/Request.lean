import ClassLoom.Run.Directory
import ClassLoom.Run.Jar

namespace ClassLoom
namespace Run

/-!
# Build runs

A build run transforms the classes that a build has compiled.  Its scope tells which of two outputs
and which of two classpaths are meant; without a classpath the output itself is one.
-/

open Config (Value Scope)
open Transformer (Plugin)

/-- What is wrong with a kind of value that has no items. -/
def notIterable {α : Type} (value : Value) : Outcome α :=
  .error (.fault (.wrongType (Text.quoted value.kind ++ " object is not iterable")))

/-- The items of a value. -/
def itemsOf : Value → Outcome (List Value)
  | .list items => .ok items
  | .tuple items => .ok items
  | .set items => .ok items
  | .mapping entries => .ok (entries.map (·.1))
  | .text text => .ok (text.toList.map fun c => .text c.toString)
  | .octets bytes => .ok (bytes.map fun b => .integer b.toNat)
  | value => notIterable value

/-- The items of a value that is given. -/
def givenItems (value : Value) : Outcome (List Value) :=
  if value.isTruthy then itemsOf value else .ok []

/-- What is wrong with a kind of value that has no options. -/
def notAMapping {α : Type} (value : Value) : Outcome α :=
  .error (.fault (.noAttribute
    (Text.quoted value.kind ++ " object has no attribute " ++ Text.quoted "get")))

/-- The member of an enumeration that a setting names, or the default where nothing is given. -/
def memberOf {α : Type} (known : String → Option α) (enumeration : String) (default : α)
    (setting : Value) : Outcome α :=
  if setting.isTruthy then
    match setting.text?.bind known with
    | some member => .ok member
    | none => .error (.fault (.wrongValue (setting.quoted ++ " is not a valid " ++ enumeration)))
  else .ok default

/-- The parameters of a build run. -/
structure Request where
  output : Value
  testOutput : Value
  filter : Value
  transformer : Value
  classpath : Value
  testClasspath : Value
  scope : Scope
  deriving Inhabited

namespace Request

/-- The request of a section. -/
def ofSection (options : Value) : Outcome Request := do
  match options with
  | .mapping options =>
    let option := Value.field options
    let classpath ← givenItems (option Config.classpathKey)
    let testClasspath ← givenItems (option Config.testClasspathKey)
    let scope ← memberOf Scope.ofName? "Scope" .main (option Config.scopeKey)
    return ⟨option Config.outputKey, option Config.testOutputKey, option Config.filterKey,
      option Config.transformerKey, .list classpath, .list testClasspath, scope⟩
  | value => notAMapping value

/-- The output that is meant. -/
def target (request : Request) : Value :=
  match request.scope with
  | .main => request.output
  | .test => request.testOutput

/-- The classpath that is meant. -/
def elements (request : Request) : Outcome (List Value) :=
  let given := match request.scope with
    | .main => request.classpath
    | .test => request.testClasspath
  if given.isTruthy then itemsOf given
  else .ok (if request.target.isTruthy then [request.target] else [])

end Request

/-- The transformer that a value names. -/
def specOf : Value → Option Plugin
  | .null => none
  | .text name => some (.text name)
  | _ => some .inert

/-- Whether a specification says something. -/
def isGiven : Option Plugin → Bool
  | none => false
  | some (.text "") => false
  | some _ => true

/-- Carry out a build run; a transformer that is given replaces that of the request. -/
def processClasses (host : Host) (request : Request) (transformer : Option Plugin)
    (failFast : Bool) (logger : String) : Work Report := do
  let spec := match transformer with
    | some plugin => some plugin
    | none => if request.transformer.isTruthy then specOf request.transformer else none
  if !isGiven spec then throw (.validation .transformerMissing)
  if !request.target.isTruthy then
    throw (.validation (.outputDirectoryMissing request.scope.name))
  let plan : Plan := ⟨spec, request.filter, failFast, .reuse, false, logger⟩
  transformDirectory host plan request.target (← Work.ofOutcome request.elements)

end Run
end ClassLoom
