import ClassLoom.Config.Value
import ClassLoom.Failure
import ClassLoom.Text.LetterCase

namespace ClassLoom
namespace Log

/-!
# Log levels

A level has a name and a number.  It can be asked for by either; names are accepted in any case, and
numbers by their size.
-/

open Config (Value)

/-- The levels, least severe first. -/
inductive Level where
  | debug | info | warning | error | critical
  deriving Repr, DecidableEq, Inhabited

namespace Level

def number : Level → Nat
  | .debug => 10 | .info => 20 | .warning => 30 | .error => 40 | .critical => 50

def name : Level → String
  | .debug => "DEBUG"
  | .info => "INFO"
  | .warning => "WARNING"
  | .error => "ERROR"
  | .critical => "CRITICAL"

def all : List Level := [.debug, .info, .warning, .error, .critical]

/-- Whether a logger set to `least` passes on records of a level. -/
def passes (level least : Level) : Bool := least.number ≤ level.number

/-- The level that a value asks for. -/
def ofValue : Value → Outcome Level
  | .text text =>
    let wanted := Text.upper text
    match all.find? (·.name == wanted) with
    | some level => .ok level
    | none => .error (.fault (.missingKey wanted))
  | value =>
    match all.find? fun level => Value.sameKey (.integer level.number) value with
    | some level => .ok level
    | none => .error (.fault (.wrongValue (value.quoted ++ " is not a valid LogLevel")))

end Level
end Log
end ClassLoom
