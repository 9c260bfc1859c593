import ClassLoom.Files.Path
import ClassLoom.Text.LetterCase

namespace ClassLoom

/-!
# Names of classes, resources and entries

A class `com.example.Foo` is found under the resource `com/example/Foo.class`.  The two maps below
are not inverse to each other on all texts: a slash in a class name and a dot in a resource name are
lost.

Archive entries may write the same path in several ways.  An entry is staged at its path without
empty and `.` segments, and keeps its own name.
-/

/-- The ending of a class file. -/
def classSuffix : List Char := ".class".toList

/-- Replace every occurrence of one character by another. -/
def replaceCharacter (old new : Char) (text : List Char) : List Char :=
  text.map fun c => if c = old then new else c

/-- A text without the ending of a class file, if it has it. -/
def stemOf (text : List Char) : List Char :=
  if classSuffix.isSuffixOf text then text.take (text.length - classSuffix.length) else text

/-- The resource in which a class is stored. -/
def resourceOfClass (className : String) : String :=
  String.ofList (replaceCharacter '.' '/' className.toList ++ classSuffix)

/-- The class that a resource stores. -/
def classOfResource (resource : String) : String :=
  String.ofList (replaceCharacter '/' '.' (stemOf resource.toList))

/-- The entry that describes an archive. -/
def manifestName : String := "META-INF/MANIFEST.MF"

/-- Whether an entry is the one that describes the archive; case does not matter. -/
def isManifestName (name : String) : Bool := Text.upper name == manifestName

/-- Whether an entry is a directory. -/
def isDirectoryName (name : String) : Bool := name.endsWith "/"

/-- Whether an entry is a class file. -/
def isClassName (name : String) : Bool := !isDirectoryName name && name.endsWith ".class"

/-- The segments of an entry's name that name something. -/
def nameParts (name : String) : List String :=
  (Files.segments name).filter fun s => !Files.isIdle s

/-- The path of an entry below the staging directory. -/
def stagedName (name : String) : String := "/".intercalate (nameParts name)

theorem replaceCharacter_inverse {old new : Char} {text : List Char} (absent : new ∉ text) :
    replaceCharacter new old (replaceCharacter old new text) = text := by
  induction text with
  | nil => rfl
  | cons c rest inductionHypothesis =>
    have headDiffers : c ≠ new := fun same => absent (same ▸ List.mem_cons_self)
    have restLacks : new ∉ rest := fun held => absent (List.mem_cons_of_mem c held)
    have restInverse := inductionHypothesis restLacks
    unfold replaceCharacter at restInverse ⊢
    by_cases isOld : c = old
    · simp [isOld, restInverse]
    · simp [isOld, headDiffers, restInverse]

end ClassLoom
