import ClassLoom.Config.Value

namespace ClassLoom
namespace Transformer

/-!
# Transformer plug-ins

A transformer is given the name and the octets of a class and answers new octets, or nothing for "no
change".  What a plug-in does is data here: a default behaviour and exceptions for single classes.
A behaviour may call a numbered procedure of its session first, which is how a plug-in acts on files
or starts runs of its own.

Plug-ins come in several shapes: ready transformers, classes that make one, functions, objects with
a `transform` method, and values that are no plug-in at all.
-/

open Config (Value)

/-- The kinds of error that a plug-in raises. -/
inductive RaisedKind where
  | runtime | value | own
  deriving Repr, DecidableEq, Inhabited

/-- What a plug-in does with a class. -/
inductive Behaviour where
  | append (bytes : Bytes)
  | prepend (bytes : Bytes)
  | surround (before after : Bytes)
  | replace (bytes : Bytes)
  | reverse
  | nothing
  | answer (value : Value)
  | fail (text : String) (kind : RaisedKind)
  | interrupt
  | appendClass (className : String)
  | appendPresence (className : String)
  | call (procedure : Nat) (next : Behaviour)
  deriving Repr, Inhabited

/-- A default behaviour and the behaviour on single classes. -/
structure Script where
  rules : List (String × Behaviour)
  default : Behaviour
  deriving Repr, Inhabited

/-- What a script does with a class. -/
def Script.behaviour (script : Script) (className : String) : Behaviour :=
  (script.rules.lookup className).getD script.default

/-- A transformer that is ready to be called. -/
structure Ready where
  kind : String
  name : String
  script : Script
  deriving Repr, Inhabited

/-- How a transformer shows itself. -/
def Ready.shown (ready : Ready) : String := "<" ++ ready.kind ++ " name=" ++ ready.name ++ ">"

/-- A value that stands for a transformer. -/
inductive Plugin where
  /-- A text; as a specification it is the name of a plug-in. -/
  | text (text : String)
  | ready (ready : Ready)
  /-- A class: what is called when it is instantiated, and then the complaint or the instance. -/
  | type (name : String) (procedure : Option Nat) (complaint : Option String)
      (made : Option Plugin) (members : List (String × Plugin))
  /-- Something that can be called; a function has a name of its own. -/
  | callable (own : Option String) (shown : String) (script : Script)
  /-- An object with a `transform` method. -/
  | object (method : String) (script : Script)
  /-- A value that cannot transform anything. -/
  | inert
  deriving Repr, Inhabited

namespace Plugin

/-- The name that a plug-in carries itself. -/
def ownName : Plugin → Option String
  | .type name _ _ _ _ => some name
  | .callable own _ _ => own
  | _ => none

/-- The plug-ins inside a plug-in. -/
def member? (plugin : Plugin) (name : String) : Option Plugin :=
  match plugin with
  | .type _ _ _ _ members => members.lookup name
  | _ => none

/-- A class whose instances are transformers. -/
def transformerClass (name instanceName : String) (behaviour : Behaviour) : Plugin :=
  .type name none none (some (.ready ⟨name, instanceName, ⟨[], behaviour⟩⟩)) []

/-- The transformer that leaves every class as it is. -/
def identity : Plugin := transformerClass "IdentityTransformer" "IdentityTransformer" .nothing

/-- The class that all transformers extend; it has no instances of its own. -/
def abstractClass : Plugin :=
  .type "ClassTransformer" none
    (some "Can't instantiate abstract class ClassTransformer with abstract method transform")
    none []

end Plugin

/-- A module that plug-ins can be imported from, or the complaint that importing it raises. -/
abbrev Module := Except String (List (String × Plugin))

/-- An installed name for a plug-in: the module and the members that lead to it. -/
structure EntryPoint where
  name : String
  value : String
  deriving Repr, Inhabited

/-- What is called what: registered plug-ins, modules, and installed names. -/
structure Registry where
  plugins : List (String × Plugin)
  modules : List (String × Module)
  entryPoints : List EntryPoint
  deriving Inhabited

namespace Registry

/-- A registry with the built-in transformer. -/
def standard (modules : List (String × Module)) (entryPoints : List EntryPoint) : Registry :=
  ⟨[("identity", .identity)], modules, entryPoints⟩

/-- Register a plug-in under a name, in the stead of what had the name. -/
def register (registry : Registry) (name : String) (plugin : Plugin) : Registry :=
  { registry with plugins := (registry.plugins.filter fun e => e.1 != name) ++ [(name, plugin)] }

/-- Take a name out. -/
def unregister (registry : Registry) (name : String) : Registry :=
  { registry with plugins := registry.plugins.filter fun e => e.1 != name }

def has (registry : Registry) (name : String) : Bool := (registry.plugins.lookup name).isSome

/-- Every name that a plug-in can be asked for, in order and without repetition. -/
def names (registry : Registry) : List String :=
  let all := registry.plugins.map (·.1) ++ registry.entryPoints.map (·.name)
  (all.mergeSort fun a b => decide (a ≤ b)).eraseReps

end Registry

/-- What a call comes to that is counted. -/
inductive Upshot where
  | transformed | noop | failed
  deriving Repr, DecidableEq, Inhabited

/-- The state of an invoker: the specification, the classpath that transformers see, the transformer
once it is resolved, and the counts: of all calls, and of what they came to. -/
structure Invoker where
  spec : Option Plugin
  loader : Option Nat
  transformer : Option Ready
  invocations : Nat
  transformed : Nat
  noop : Nat
  failed : Nat
  deriving Inhabited

namespace Invoker

def new (spec : Option Plugin) (loader : Option Nat) : Invoker := ⟨spec, loader, none, 0, 0, 0, 0⟩

/-- Count a call. -/
def record (upshot : Upshot) (invoker : Invoker) : Invoker :=
  let invoker := { invoker with invocations := invoker.invocations + 1 }
  match upshot with
  | .transformed => { invoker with transformed := invoker.transformed + 1 }
  | .noop => { invoker with noop := invoker.noop + 1 }
  | .failed => { invoker with failed := invoker.failed + 1 }

/-- The counts as they are logged. -/
def statistics (invoker : Invoker) : Value :=
  .ofFields [("invocations", .integer invoker.invocations),
    ("transformed", .integer invoker.transformed), ("noop", .integer invoker.noop),
    ("failed", .integer invoker.failed), ("total_duration_ms", .real (.ofInt 0)),
    ("avg_duration_ms", .real (.ofInt 0))]

def reset (invoker : Invoker) : Invoker :=
  { invoker with invocations := 0, transformed := 0, noop := 0, failed := 0 }

end Invoker
end Transformer
end ClassLoom
