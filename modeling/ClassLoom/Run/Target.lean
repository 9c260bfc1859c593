import ClassLoom.Classpath.Root
import ClassLoom.Failure

namespace ClassLoom
namespace Run

/-!
# Classes on their way through a run

A candidate is a class file that has been found.  A target is a candidate with its octets and the
place they came from; it takes the answer of the transformer once, and is then written back.
-/

open Files (Path)

/-- Where transformed classes go: over the class file, or into a staging directory. -/
inductive Mode where
  | inPlace | staged
  deriving Repr, DecidableEq, Inhabited

def Mode.name : Mode → String
  | .inPlace => "in_place"
  | .staged => "staged"

def Mode.ofName? : String → Option Mode
  | "in_place" => some .inPlace
  | "staged" => some .staged
  | _ => none

/-- A class file that has been found. -/
structure Candidate where
  relativePath : String
  className : String
  filePath : Path
  deriving Repr, DecidableEq, Inhabited

/-- A class file with its octets. -/
structure Target where
  className : String
  source : Classpath.Location
  writePath : Path
  content : Bytes
  transformed : Option Bytes
  applied : Bool
  deriving Repr, DecidableEq, Inhabited

/-- Content that says something: neither absent nor empty. -/
def substance : Option Bytes → Option Bytes
  | some [] => none
  | content => content

namespace Target

/-- A target that has not been transformed. -/
def new (className : String) (source : Classpath.Location) (writePath : Path) (content : Bytes) :
    Target :=
  ⟨className, source, writePath, content, none, false⟩

/-- Take the answer of a transformer, which can be done once. -/
def apply (target : Target) (content : Option Bytes) : Outcome Target :=
  if target.applied then .error (.general (.alreadyTransformed target.className))
  else .ok { target with transformed := substance content, applied := true }

/-- Whether there is nothing to write. -/
def isNoop (target : Target) : Bool := (substance target.transformed).isNone

end Target

/-- How candidates are resolved: from their own file, or by their name on a classpath. -/
structure Resolver where
  mode : Mode
  classpath : Option Nat
  deriving Repr, DecidableEq, Inhabited

/-- A resolver for a mode; the staged mode needs a classpath. -/
def Resolver.new (mode : Mode) (classpath : Option Nat) : Outcome Resolver :=
  if mode = .staged && classpath.isNone then .error (.general .classpathNeeded)
  else .ok ⟨mode, classpath⟩

end Run
end ClassLoom
