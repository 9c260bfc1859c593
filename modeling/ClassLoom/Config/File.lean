import ClassLoom.Config.Environment
import ClassLoom.Files.Operations
import ClassLoom.Yaml.Reading

namespace ClassLoom
namespace Config

/-!
# Configuration files

A file holds one document with a mapping.  A mapping without the section is the section itself.
Files are told by their paths as given; the list of the loaded files has them resolved.
-/

open Files (FileTree Path)

/-- The home directory. -/
def home : Path := Path.ofString "/root"

/-- A path with its home directory written out. -/
def expand (path : Path) : Outcome Path :=
  match path.root, path.parts with
  | "", first :: rest =>
    if first == "~" || first == "~root" then .ok (home.descend rest)
    else if first.startsWith "~" then
      .error (.fault (.runtime "Could not determine home directory."))
    else .ok path
  | _, _ => .ok path

/-- A text with every line break as a line feed. -/
def unifyBreaks : List Char → List Char
  | '\r' :: '\n' :: rest => '\n' :: unifyBreaks rest
  | '\r' :: rest => '\n' :: unifyBreaks rest
  | c :: rest => c :: unifyBreaks rest
  | [] => []

/-- The resolved path of a file; it must not hold a NUL nor lead through a loop of links. -/
def resolved (tree : FileTree) (file : String) : Outcome Path := do
  let path ← expand (Path.ofString file)
  if FileTree.hasNul path.toString then throw (.fault (.file .embeddedNul))
  match tree.resolve? path with
  | some place => return FileTree.pathOf place
  | none => throw (.fault (.runtime ("Symlink loop from " ++ Text.quoted file)))

/-- The text of a file. -/
def textOf (tree : FileTree) (file : String) (path : Path) : Outcome (List Char) :=
  match tree.read path.toString with
  | .error error => .error (.config (.cannotLoad file (.file error)))
  | .ok content =>
    match Text.decodeUtf8 content with
    | .ok text => .ok (unifyBreaks text)
    | .error fault => .error (.fault (.undecodable fault))

/-- The value of a document. -/
def documentOf (file : String) (text : List Char) : Outcome Value :=
  match Yaml.valueOf text with
  | .ok value => .ok value
  | .error (.fault fault) => .error (.fault fault)
  | .error refusal => .error (.config (.notParsed file refusal.message))

/-- What a file says, with the section as a key. -/
def Layers.ofDocument (file : String) : Value → Outcome Value
  | .mapping options =>
    if (Value.field? options sectionName).isSome then .ok (.mapping options)
    else .ok (.ofFields [(sectionName, .mapping options)])
  | _ => .error (.config (.notAMapping file))

/-- Load a file into a source. -/
def Layers.loadFile (layers : Layers) (tree : FileTree) (file : String) (source : Source) :
    Outcome Layers := do
  let path ← resolved tree file
  let present ← (tree.exists? path).mapError fun error => Failure.fault (.file error)
  if !present then throw (.config (.fileNotFound file))
  let value ← ofDocument file (← documentOf file (← textOf tree file path))
  let layers := layers.load source value
  return { layers with files := layers.files ++ [path.toString] }

/-- Load a file if it is there. -/
def Layers.loadIfPresent (layers : Layers) (tree : FileTree) (file : String) (source : Source) :
    Outcome Layers := do
  let present ← (tree.isFile? (Path.ofString file)).mapError fun error =>
    Failure.fault (.file error)
  if present then layers.loadFile tree file source else return layers

/-- A new configuration from the defaults, a file of the system if it is there, the user's file, and
variables. -/
def Layers.create (tree : FileTree) (system user : Option String) (environment : Option Variables) :
    Outcome Layers := do
  let given := fun (file : Option String) => file.filter (· != "")
  let layers ← match given system with
    | some file => initial.loadIfPresent tree file .systemFile
    | none => .ok initial
  let layers ← match given user with
    | some file => layers.loadFile tree file .userFile
    | none => .ok layers
  match environment with
  | some environment => layers.loadVariables environment
  | none => return layers

end Config
end ClassLoom
