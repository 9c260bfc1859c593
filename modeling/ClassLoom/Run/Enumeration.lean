import ClassLoom.Run.Artifact
import ClassLoom.Run.Target

namespace ClassLoom
namespace Run

/-!
# Finding class files in a directory

A directory is gone through depth first, the names in each directory in their order.  What is done
with a class file is done before the next one is looked for, so it may change what is found later:
the walk is told what to do and carries its result along.
-/

open Files (Path)

/-- The candidate for names below the root, if they are those of a class file. -/
def Candidate.of? (path : Path) (names : List String) : Option Candidate :=
  let dotted := (Text.joined "." names).toList
  if classSuffix.isSuffixOf dotted then
    some ⟨"/".intercalate names, String.ofList (stemOf dotted), path⟩
  else none

/-- The names in a directory; a directory that cannot be listed ends the walk. -/
def listing (current : Path) : Work (List (String × Files.Entry)) := do
  match (← Work.files).list current.toString with
  | .ok entries => return entries
  | .error error => throw (.enumeration (.cannotList current.toString (.file error)))

/-- What a listed name is: a directory, a class file, or nothing to visit. -/
inductive Listed where
  | directory
  | candidate (candidate : Candidate)
  | other

/-- Classify a listed name. -/
def classify (path : Path) (names : List String) (entry : Files.Entry) : Work Listed := do
  if ← Work.ask (·.listedAs Files.FileTree.Entry.isDirectory path.toString entry) then
    return .directory
  if ← Work.ask (·.listedAs Files.FileTree.Entry.isFile path.toString entry) then
    return ((Candidate.of? path names).map Listed.candidate).getD .other
  return .other

/-- How far a walk has come: what it carries along, and the failure that has ended it. -/
abbrev Progress (σ : Type) := σ × Option Failure

/-- Go on with a step if nothing has ended the walk; a failure of the step ends it. -/
def advance {σ : Type} (step : σ → Work (Progress σ)) : Progress σ → Work (Progress σ)
  | (result, some failure) => return (result, some failure)
  | (result, none) => do
    match ← Work.attempt (step result) with
    | .ok progress => return progress
    | .error failure => return (result, some failure)

/-- Visit every class file below a directory; the first number bounds the depth. -/
def walk {σ : Type} (visit : σ → Candidate → Work σ) :
    Nat → Path → List String → σ → Work (Progress σ)
  | 0, _, _, result => return (result, none)
  | depth + 1, current, parts, result => do
    (← listing current).foldlM (fun progress (name, entry) =>
      let path := current.child name
      let names := parts ++ [name]
      advance (fun result => do
        match ← classify path names entry with
        | .directory => walk visit depth path names result
        | .candidate candidate => return (← visit result candidate, none)
        | .other => return (result, none)) progress) (result, none)

/-- Visit every class file of a root directory. -/
def visitClasses {σ : Type} (visit : σ → Candidate → Work σ) (root : Path) (result : σ) :
    Work (Progress σ) :=
  advance (fun result => do
    if !(← Work.ask (·.isDirectory? root)) then
      throw (.enumeration (.notADirectory root.toString))
    walk visit Files.FileTree.pathLimit root [] result) (result, none)

/-- The class files of a root directory, up to the failure that ends the list if there is one. -/
def candidates (root : Path) : Work (Progress (List Candidate)) :=
  visitClasses (fun found candidate => return found ++ [candidate]) root []

end Run
end ClassLoom
