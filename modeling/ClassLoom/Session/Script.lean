import ClassLoom.Classpath.Lookup

namespace ClassLoom
namespace Session

/-!
# What scripted transformers do

A script says what is done with each class.  Procedures are numbered; what they do is told by a
function that is given the host in turn, so a transformer can start runs of its own.  The depth to
which runs may start runs is bounded.
-/

open Config (Value)
open Transformer (Behaviour RaisedKind Ready)

/-- The failure that a plug-in raises. -/
def raised (text : String) : RaisedKind → Failure
  | .runtime => .fault (.runtime text)
  | .value => .fault (.wrongValue text)
  | .own => .general (.reported text)

/-- What a behaviour answers. -/
def answer (procedure : Nat → Work Unit) (loader : Option Nat) (given : Bytes) :
    Behaviour → Work Value
  | .append bytes => return .octets (given ++ bytes)
  | .prepend bytes => return .octets (bytes ++ given)
  | .surround before after => return .octets (before ++ given ++ after)
  | .replace bytes => return .octets bytes
  | .reverse => return .octets given.reverse
  | .nothing => return .null
  | .answer value => return value
  | .fail text kind => throw (raised text kind)
  | .interrupt => throw .interrupted
  | .appendClass className => do
    match loader with
    | some classpath =>
      return .octets (given ++ (← Classpath.resolve classpath className).content)
    | none =>
      throw (.fault (.noAttribute
        (Text.quoted "NoneType" ++ " object has no attribute " ++ Text.quoted "load_bytes")))
  | .appendPresence className => do
    match loader with
    | some classpath =>
      let mark := if ← Classpath.contains classpath className then "Y" else "N"
      return .octets (given ++ Bytes.ofText mark)
    | none =>
      throw (.fault (.wrongType
        ("argument of type " ++ Text.quoted "NoneType" ++ " is not iterable")))
  | .call number next => do
    procedure number
    answer procedure loader given next

/-- The complaint about runs that start runs without end. -/
def tooDeep : Failure := .fault (.runtime "maximum recursion depth exceeded")

/-- The host of scripted transformers, to a depth. -/
def host (procedure : Nat → Host → Work Unit) : Nat → Host
  | 0 => ⟨fun _ _ _ _ => throw tooDeep, fun _ => throw tooDeep⟩
  | depth + 1 =>
    let run := fun number => procedure number (host procedure depth)
    ⟨fun ready loader className given =>
      answer run loader given (ready.script.behaviour className), run⟩

end Session
end ClassLoom
