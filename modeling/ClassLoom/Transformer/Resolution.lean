import ClassLoom.Log.Writing

namespace ClassLoom
namespace Transformer

/-!
# From a specification to a transformer

A specification is a ready transformer, a class or a function, or a name.  A name is looked up among
the registered plug-ins, then among the installed names, and is then taken for an import path.  What
is found is instantiated if it is a class, and wrapped if it is not a transformer yet.
-/

/-- The segments of a text between dots. -/
def dotted (text : String) : List String :=
  (Files.splitAt '.' text.toList).map String.ofList

/-- Why a module cannot be imported: there is none, it breaks, or the name is none. -/
inductive ImportFailure where
  | failed (complaint : String)
  | nameless
  | relative
  deriving Repr, Inhabited

/-- The fault of an import. -/
def ImportFailure.fault : ImportFailure → Fault
  | .failed complaint => .importFailed complaint
  | .nameless => .wrongValue "Empty module name"
  | .relative => .wrongType "the 'package' argument is required to perform a relative import"

/-- Import a module.  A module holds no further modules. -/
def importModule (modules : List (String × Module)) (name : String) :
    Except ImportFailure (List (String × Plugin)) :=
  match dotted name with
  | [] => .error .nameless
  | [""] => .error .nameless
  | "" :: _ => .error .relative
  | first :: rest =>
    match modules.lookup first, rest with
    | none, _ => .error (.failed ("No module named " ++ Text.quoted first))
    | some (.error complaint), _ => .error (.failed complaint)
    | some (.ok members), [] => .ok members
    | some (.ok _), next :: _ =>
      .error (.failed ("No module named " ++ Text.quoted (first ++ "." ++ next) ++ "; " ++
        Text.quoted first ++ " is not a package"))

/-- Follow names through the members of plug-ins. -/
def follow : Plugin → List String → Option Plugin
  | plugin, [] => some plugin
  | plugin, name :: rest =>
    match plugin.member? name with
    | some inner => follow inner rest
    | none => none

/-- Follow names from the members of a module. -/
def followFrom (members : List (String × Plugin)) : List String → Option Plugin
  | [] => none
  | name :: rest => (members.lookup name).bind fun plugin => follow plugin rest

/-- Load the plug-in of an installed name. -/
def EntryPoint.load (entryPoint : EntryPoint) (modules : List (String × Module)) :
    Except Fault Plugin :=
  let pieces := (Files.splitAt ':' entryPoint.value.toList).map String.ofList
  let names := (dotted (pieces.getD 1 "")).filter (· != "")
  match importModule modules (pieces.getD 0 "") with
  | .error failure => .error failure.fault
  | .ok members =>
    match followFrom members names with
    | some plugin => .ok plugin
    | none =>
      .error (.noAttribute ("module " ++ Text.quoted (pieces.getD 0 "") ++ " has no attribute " ++
        Text.quoted (names.headD "")))

/-- The module and the members of an import path; nothing if no module is named. -/
def splitImport (path : String) : Option (String × List String) :=
  let characters := path.toList
  if characters.contains ':' then
    let module := characters.takeWhile (· != ':')
    some (String.ofList module, dotted (String.ofList (characters.drop (module.length + 1))))
  else
    let names := dotted path
    let module := Text.joined "." names.dropLast
    if module == "" then none else some (module, [names.getLastD ""])

/-- Import the plug-in of an import path. -/
def importPlugin (registry : Registry) (path : String) : Outcome Plugin :=
  match splitImport path with
  | none => .error (.transformerUnknown path registry.names)
  | some (module, names) =>
    match importModule registry.modules module with
    | .error (.failed complaint) => .error (.moduleUnimportable module complaint)
    | .error failure => .error (.fault failure.fault)
    | .ok members =>
      match followFrom members names with
      | some plugin => .ok plugin
      | none => .error (.transformerNotFound path)

/-- Look up a name. -/
def lookup (registry : Registry) (name : String) : Outcome Plugin :=
  match registry.plugins.lookup name with
  | some plugin => .ok plugin
  | none =>
    match registry.entryPoints.find? (·.name == name) with
    | some entryPoint =>
      match entryPoint.load registry.modules with
      | .ok plugin => .ok plugin
      | .error cause => .error (.entryPointUnloadable name entryPoint.value cause)
    | none => importPlugin registry name

/-- A name that says something. -/
def givenName : Option String → Option String
  | some "" => none
  | name => name

/-- Wrap what can be called; an instance of a class is wrapped like any other value. -/
def wrap (plugin : Plugin) (name : Option String) : Outcome Ready :=
  match plugin with
  | .ready ready => .ok ready
  | .object method script =>
    .ok ⟨"FunctionTransformer", (givenName name).getD method, script⟩
  | .callable own shown script =>
    .ok ⟨"FunctionTransformer", ((givenName name).or (givenName own)).getD shown, script⟩
  | _ => .error (.noTransformMethod (name.getD "None"))

/-- Make a transformer of a plug-in. -/
def instantiate (host : Host) (plugin : Plugin) (name : Option String) : Work Ready := do
  match plugin with
  | .type _ procedure complaint made _ =>
    let construct : Work Unit := do
      match procedure with
      | some procedure => host.construct procedure
      | none => pure ()
      match complaint with
      | some complaint => throw (.fault (.wrongType complaint))
      | none => pure ()
    Work.recast
      (fun failure =>
        if failure.isOrdinary then some (.notInstantiable (name.getD "None") failure) else none)
      construct
    Work.ofOutcome (wrap (made.getD .inert) name)
  | plugin => Work.ofOutcome (wrap plugin name)

/-- The transformer of a specification. -/
def resolve (host : Host) (spec : Option Plugin) : Work Ready := do
  match spec with
  | none => throw .transformerMissing
  | some (.ready ready) => return ready
  | some (.text "") => throw .transformerMissing
  | some (.text name) =>
    instantiate host (← Work.ofOutcome (lookup (← get).registry name)) (some name)
  | some plugin => instantiate host plugin plugin.ownName

end Transformer
end ClassLoom
