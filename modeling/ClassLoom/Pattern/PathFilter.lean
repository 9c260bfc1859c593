import ClassLoom.Failure
import ClassLoom.Pattern.Matching
import ClassLoom.Pattern.Reading

namespace ClassLoom
namespace Pattern

/-!
# Filters on paths

A filter accepts every path, or the paths in which its pattern is found.  Paths are taken as they
are: a pattern sees every character of them and may match anywhere.
-/

open Config (Value)

/-- A pattern that is ready for use, or the reason why it is none. -/
def compile (pattern : String) : Outcome Reading :=
  if InvalidInput.longestText < pattern.length then .error (.validation .patternTooLong)
  else match Reading.ofString pattern with
    | .ok reading => .ok reading
    | .error .repetitionTooLarge =>
      .error (.fault (.outOfRange (Complaint.message pattern .repetitionTooLarge)))
    | .error .mixedTypes => .error (.fault (.wrongValue (Complaint.message pattern .mixedTypes)))
    | .error complaint =>
      .error (.validation (.invalidPattern pattern (complaint.message pattern)))

/-- The same for a value that should be a pattern. -/
def compileValue : Value → Outcome Reading
  | .text pattern => compile pattern
  | value => .error (.validation (.patternNotText value.kindClass))

/-- A filter on paths. -/
inductive PathFilter where
  | everything
  | matching (pattern : String) (reading : Reading)
  deriving Inhabited

namespace PathFilter

/-- The filter of a given pattern; null stands for no pattern. -/
def ofValue : Value → Outcome PathFilter
  | .null => .ok .everything
  | value => do
    let reading ← compileValue value
    return .matching value.plain reading

/-- The filter of a configured pattern, where everything empty stands for no pattern. -/
def ofSetting (value : Value) : Outcome PathFilter :=
  ofValue (if value.isTruthy then value else .null)

/-- Whether a filter accepts a path. -/
def accepts : PathFilter → String → Bool
  | .everything, _ => true
  | .matching _ reading, path => isFound reading.expression reading.flags path

/-- Whether a filter has no pattern. -/
def acceptsAll : PathFilter → Bool
  | .everything => true
  | .matching _ _ => false

/-- How a filter shows itself. -/
def shown : PathFilter → String
  | .everything => "<PathFilter accept-all>"
  | .matching pattern _ => "<PathFilter pattern=" ++ Text.quoted pattern ++ ">"

@[simp] theorem accepts_everything (path : String) : everything.accepts path = true := rfl

end PathFilter
end Pattern
end ClassLoom
