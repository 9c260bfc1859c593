import ClassLoom.Text.Quoted

namespace ClassLoom
namespace Files

/-!
# Why a file operation fails

The causes are those of the operating system.  A failure names the path that was asked for, as it
was given, and for a renaming both paths.
-/

/-- A cause of failure that the operating system reports. -/
inductive Cause where
  | notFound | busy | alreadyExists | notDirectory | isDirectory | invalid | nameTooLong
  | notEmpty | linkLoop
  deriving Repr, DecidableEq, Inhabited

/-- The number of a cause. -/
def Cause.number : Cause → Nat
  | .notFound => 2 | .busy => 16 | .alreadyExists => 17 | .notDirectory => 20
  | .isDirectory => 21 | .invalid => 22 | .nameTooLong => 36 | .notEmpty => 39 | .linkLoop => 40

/-- The wording of a cause. -/
def Cause.text : Cause → String
  | .notFound => "No such file or directory"
  | .busy => "Device or resource busy"
  | .alreadyExists => "File exists"
  | .notDirectory => "Not a directory"
  | .isDirectory => "Is a directory"
  | .invalid => "Invalid argument"
  | .nameTooLong => "File name too long"
  | .notEmpty => "Directory not empty"
  | .linkLoop => "Too many levels of symbolic links"

/-- A failed file operation. -/
structure SystemError where
  cause : Cause
  /-- The path asked for; absent if the failure is not about a path. -/
  path : Option String
  /-- The second path of a renaming. -/
  target : Option String
  deriving Repr, DecidableEq, Inhabited

/-- The wording of a failure. -/
def SystemError.message (error : SystemError) : String :=
  let head := "[Errno " ++ toString error.cause.number ++ "] " ++ error.cause.text
  match error.path, error.target with
  | none, _ => head
  | some path, none => head ++ ": " ++ Text.quoted path
  | some path, some target => head ++ ": " ++ Text.quoted path ++ " -> " ++ Text.quoted target

/-- Why a file operation does not answer: the system refuses, or the path is none because it holds
a NUL. -/
inductive FileError where
  | system (error : SystemError)
  | embeddedNul
  deriving Repr, DecidableEq, Inhabited

/-- A failure on one path. -/
def FileError.on (path : String) (cause : Cause) : FileError := .system ⟨cause, some path, none⟩

/-- The wording of a failure. -/
def FileError.message : FileError → String
  | .system error => error.message
  | .embeddedNul => "embedded null byte"

end Files
end ClassLoom
