import ClassLoom.Transformer.Resolution

namespace ClassLoom
namespace Transformer

/-!
# Calling the transformer of a run

The transformer is resolved at the first call and kept.  A call that fails is a failure of the class
at hand, but an interruption goes through.  Every call that ends with an answer or a failure is
counted once.
-/

open Config (Value)

/-- The answer to a call: the class, the new content if there is any, and who answered. -/
structure Answer where
  className : String
  content : Option Bytes
  transformer : String
  deriving Repr, Inhabited

/-- The transformer of an invoker. -/
def Invoker.prepare (host : Host) (number : Nat) : Work Ready := do
  let invoker ← Work.invoker number
  match invoker.transformer with
  | some ready => return ready
  | none =>
    let ready ← resolve host invoker.spec
    Work.changeInvoker number fun invoker => { invoker with transformer := some ready }
    Log.debug (← Log.globalLogger) ("Using transformer " ++ ready.shown)
    return ready

/-- What a call comes to: no content, content, or an answer of the wrong kind. -/
def contentOf : Value → Except String (Option Bytes)
  | .null => .ok none
  | .octets content => .ok (Run.substance (some content))
  | value => .error value.kind

/-- Call the transformer on a class. -/
def Invoker.invoke (host : Host) (number : Nat) (className : String) (content : Bytes) :
    Work Answer := do
  let ready ← Invoker.prepare host number
  let loader := (← Work.invoker number).loader
  let count (upshot : Upshot) : Work Unit := Work.changeInvoker number (Invoker.record upshot)
  match ← Work.attempt (host.transform ready loader className content) with
  | .error failure =>
    if failure.isOrdinary then
      count .failed
      throw (.transformerRaised ready.name className failure)
    else throw failure
  | .ok value =>
    match contentOf value with
    | .error kind =>
      count .failed
      throw (.transformerAnswered ready.name className kind)
    | .ok content =>
      count (if content.isNone then .noop else .transformed)
      return ⟨className, content, ready.name⟩

end Transformer
end ClassLoom
