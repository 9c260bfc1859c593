import ClassLoom.Classpath.Lookup

namespace ClassLoom
namespace Run

/-!
# Artifacts of a run

A run is about an archive or a directory of class files.  Both are checked before anything else is
done.
-/

open Config (Value)
open Files (Path FileTree FileError)

/-- Ask a file tree; a refusal is a fault. -/
def asked {α : Type} : Except FileError α → Outcome α
  | .ok answer => .ok answer
  | .error error => .error (.fault (.file error))

/-- Check that a path names an archive. -/
def checkArchive (tree : FileTree) (value : Value) : Outcome Unit := do
  Config.checkPath value
  let path := Path.ofString value.plain
  if !(← asked (tree.exists? path)) then Config.refuse (.noSuchArchive value.plain)
  if !(← asked (tree.isFile? path)) then Config.refuse (.archiveNotAFile value.plain)
  if !(← Classpath.isArchiveFile tree path.toString) then
    Config.refuse (.notAnArchive value.plain)

/-- Check that a path names a directory. -/
def checkDirectory (tree : FileTree) (value : Value) : Outcome Unit := do
  Config.checkPath value
  let path := Path.ofString value.plain
  if !(← asked (tree.exists? path)) then Config.refuse (.noSuchDirectory value.plain)
  if !(← asked (tree.isDirectory? path)) then Config.refuse (.notADirectory value.plain)

/-- The extensions of archives. -/
def archiveExtensions : List String := [".jar", ".zip", ".war", ".ear"]

/-- Whether a path names an archive rather than a directory: a file with a fitting extension or
fitting content. -/
def isArchive (tree : FileTree) (text : String) : Outcome Bool := do
  let path := Path.ofString text
  if !(← asked (tree.isFile? path)) then return false
  if archiveExtensions.contains (Text.lower path.extension) then return true
  Classpath.isArchiveFile tree path.toString

end Run
end ClassLoom
