import ClassLoom.Config.Validation
import ClassLoom.Files.Path

namespace ClassLoom
namespace Config

/-!
# Layered configuration

A configuration has six sources, and each holds a tree of its own.  A look-up of a dotted key asks
the sources from the highest to the lowest and takes the first value that is not null.  The whole is
the merge of the sources from the lowest to the highest: mappings are merged key by key, and
anything else replaces what was there, except that null never replaces a value.
-/

/-- Where a value comes from, lowest precedence first. -/
inductive Source where
  | defaults | systemFile | userFile | environment | commandLine | runtime
  deriving Repr, DecidableEq, Inhabited

namespace Source

def all : List Source := [.defaults, .systemFile, .userFile, .environment, .commandLine, .runtime]

def name : Source → String
  | .defaults => "COMPILED_DEFAULTS"
  | .systemFile => "SYSTEM_CONFIG"
  | .userFile => "USER_CONFIG"
  | .environment => "ENVIRONMENT"
  | .commandLine => "CLI_ARGS"
  | .runtime => "RUNTIME"

def ofName? (text : String) : Option Source := all.find? (·.name == text)

end Source

/-- The section when nothing is configured. -/
def defaultSection : Value :=
  .ofFields [
    (transformerKey, .null), (filterKey, .null), (failFastKey, .boolean true),
    (scopeKey, .text Scope.main.name), (outputKey, .null), (testOutputKey, .null),
    (classpathKey, .list []), (testClasspathKey, .list []),
    (stagingKey, .ofFields [
      (policyKey, .text StagingPolicy.reuse.name), (cleanAfterKey, .boolean false)]),
    (loggingKey, .ofFields [(levelKey, .text "INFO"), (logFileKey, .null)])]

/-- A configuration: what each source holds, and the files that were read. -/
structure Layers where
  sources : List (Source × Value)
  files : List String
  deriving Inhabited

mutual

/-- A mapping with the entries of another one merged into it. -/
def mergeMapping (base : Mapping) : List (Value × Value) → Mapping
  | [] => base
  | (key, value) :: rest => mergeMapping (mergeEntry base key value) rest

/-- One entry merged into a mapping. -/
def mergeEntry (base : Mapping) (key : Value) : Value → Mapping
  | .mapping entries =>
    match Value.lookup base key with
    | some (.mapping old) => Value.insert base key (.mapping (mergeMapping old entries))
    | _ => Value.insert base key (.mapping entries)
  | .null => if (Value.lookup base key).isSome then base else Value.insert base key .null
  | value => Value.insert base key value

end

/-- The value at a path through mappings. -/
def valueAt : Value → List String → Value
  | value, [] => value
  | .mapping entries, name :: rest =>
    match Value.field? entries name with
    | some value => valueAt value rest
    | none => .null
  | _, _ :: _ => .null

/-- Put a value at a path; mappings on the way are made where the path leads nowhere.  Only mappings
can be entered. -/
def putAt (value : Value) : List String → Value → Outcome Value
  | [], _ => .ok value
  | [name], .mapping entries => .ok (.mapping (Value.insert entries (.text name) value))
  | [_], .list _ =>
    .error (.fault (.wrongType "list indices must be integers or slices, not str"))
  | [_], other =>
    .error (.fault (.wrongType
      (Text.quoted other.kind ++ " object does not support item assignment")))
  | name :: rest, .mapping entries => do
    let inner := (Value.field? entries name).getD (.mapping [])
    let inner ← putAt value rest inner
    return .mapping (Value.insert entries (.text name) inner)
  | _ :: _, other =>
    .error (.fault (.noAttribute
      (Text.quoted other.kind ++ " object has no attribute 'setdefault'")))

/-- The names in a dotted key. -/
def keyPath (key : String) : List String :=
  (Files.splitAt '.' key.toList).map String.ofList

/-- What a schema asks of a value: one of some kinds, or a mapping with a schema of its own. -/
inductive Schema where
  | kinds (names : List String)
  | fields (entries : List (String × Schema))
  deriving Inhabited

/-- Whether a value is of a kind; truth values are also whole numbers. -/
def isOfKind (value : Value) (name : String) : Bool :=
  value.kind == name || (name == "int" && value.kind == "bool")

mutual

/-- Check a value that is not null against a schema; the text is the path to the value. -/
def Schema.check (path : String) (value : Value) : Schema → Outcome Unit
  | .kinds names =>
    if names.any (isOfKind value) then .ok ()
    else .error (.config (.expectedKind names path value.kind))
  | .fields entries =>
    match value with
    | .mapping options => checkFields (path ++ ".") options entries
    | value => .error (.config (.expectedMapping path value.kind))

/-- Check the fields of a mapping; the text is put before their names. -/
def checkFields (path : String) (options : Mapping) : List (String × Schema) → Outcome Unit
  | [] => .ok ()
  | (name, schema) :: rest => do
    match Value.field options name with
    | .null => pure ()
    | value => schema.check (path ++ name) value
    checkFields path options rest

end

/-- The kinds of the options. -/
def sectionSchema : List (String × Schema) :=
  [(sectionName, .fields [
    (transformerKey, .kinds ["str"]), (filterKey, .kinds ["str"]), (failFastKey, .kinds ["bool"]),
    (scopeKey, .kinds ["str"]), (outputKey, .kinds ["str"]), (testOutputKey, .kinds ["str"]),
    (classpathKey, .kinds ["list"]), (testClasspathKey, .kinds ["list"]),
    (stagingKey, .fields [(policyKey, .kinds ["str"]), (cleanAfterKey, .kinds ["bool"])]),
    (loggingKey, .fields [(levelKey, .kinds ["str", "int"]), (logFileKey, .kinds ["str"])])])]

namespace Layers

/-- A configuration that holds the defaults alone. -/
def initial : Layers := ⟨[(.defaults, .ofFields [(sectionName, defaultSection)])], []⟩

/-- What a source holds. -/
def source? (layers : Layers) (source : Source) : Option Value := layers.sources.lookup source

/-- Replace what a source holds. -/
def load (layers : Layers) (source : Source) (value : Value) : Layers :=
  { layers with
    sources :=
      if (layers.source? source).isSome then
        layers.sources.map fun e => if e.1 = source then (source, value) else e
      else layers.sources ++ [(source, value)] }

/-- What the sources hold that are there, lowest first. -/
def ordered (layers : Layers) : List Value := Source.all.filterMap layers.source?

/-- The value of a dotted key in the highest source that has one. -/
def get? (layers : Layers) (key : String) : Option Value :=
  layers.ordered.reverse.findSome? fun value =>
    let found := valueAt value (keyPath key)
    if found.isNull then none else some found

/-- The value of a dotted key, or a default. -/
def get (layers : Layers) (key : String) (default : Value) : Value :=
  (layers.get? key).getD default

/-- Set the value of a dotted key in one source. -/
def set (layers : Layers) (key : String) (value : Value) (source : Source) : Outcome Layers := do
  let tree ← putAt value (keyPath key) ((layers.source? source).getD (.mapping []))
  return layers.load source tree

/-- Merge the sources. -/
def merged (layers : Layers) : Outcome Mapping :=
  layers.ordered.foldlM (fun merged value => match value with
    | .mapping entries => .ok (mergeMapping merged entries)
    | value =>
      .error (.fault (.noAttribute (Text.quoted value.kind ++ " object has no attribute 'items'"))))
    []

/-- The merged section. -/
def mergedSection (layers : Layers) : Outcome Value := do
  return (Value.field? (← layers.merged) sectionName).getD (.mapping [])

/-- Check the merge against a schema. -/
def checkSchema (layers : Layers) (schema : List (String × Schema)) : Outcome Unit := do
  checkFields "" (← layers.merged) schema

/-- The section, if it has the right kinds and values. -/
def validated (layers : Layers) : Outcome Value := do
  layers.checkSchema sectionSchema
  let options ← layers.mergedSection
  checkSection options
  return options

/-- Drop one source, or every source, but never the defaults. -/
def clear (layers : Layers) (source : Option Source) : Layers :=
  { layers with
    sources := layers.sources.filter fun e =>
      e.1 = .defaults || match source with
        | some source => e.1 ≠ source
        | none => false }

end Layers
end Config
end ClassLoom
