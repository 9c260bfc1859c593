import ClassLoom.Pattern.PathFilter

namespace ClassLoom
namespace Config

/-!
# What configured values must look like

Every check answers the first thing that is wrong.  The checks look at shape alone: whether a
classpath element exists is found out when the classpath is opened.
-/

open Pattern (compileValue)

/-- The keys of the section. -/
def sectionName : String := "classweaver"
def transformerKey : String := "transformer"
def filterKey : String := "filter_pattern"
def failFastKey : String := "fail_fast"
def scopeKey : String := "scope"
def outputKey : String := "output_directory"
def testOutputKey : String := "test_output_directory"
def classpathKey : String := "classpath"
def testClasspathKey : String := "test_classpath"
def stagingKey : String := "staging"
def policyKey : String := "policy"
def cleanAfterKey : String := "clean_after"
def loggingKey : String := "logging"
def levelKey : String := "level"
def logFileKey : String := "file"

/-- Refuse an input. -/
def refuse {α : Type} (cause : InvalidInput) : Outcome α := .error (.validation cause)

/-- Which output a build run is about. -/
inductive Scope where
  | main | test
  deriving Repr, DecidableEq, Inhabited

def Scope.name : Scope → String
  | .main => "main"
  | .test => "test"

def Scope.ofName? : String → Option Scope
  | "main" => some .main
  | "test" => some .test
  | _ => none

/-- What to do with a staging directory that an earlier run left. -/
inductive StagingPolicy where
  | reuse | clean
  deriving Repr, DecidableEq, Inhabited

def StagingPolicy.name : StagingPolicy → String
  | .reuse => "reuse"
  | .clean => "clean"

def StagingPolicy.ofName? : String → Option StagingPolicy
  | "reuse" => some .reuse
  | "clean" => some .clean
  | _ => none

/-- Check the text of a path. -/
def checkPathText (path : String) : Outcome Unit :=
  if InvalidInput.longestText < path.length then refuse .pathTooLong
  else if path.toList.any (·.toNat = 0) then refuse .pathHasNul
  else if path.toList.any (·.toNat < 32) then refuse .pathHasControl
  else .ok ()

/-- Check a path. -/
def checkPath (value : Value) : Outcome Unit :=
  if !value.isTruthy then refuse .pathEmpty
  else match value with
    | .text path => checkPathText path
    | value => refuse (.pathNotText value.kindClass)

/-- Name the element in which something is wrong. -/
def inElement {α : Type} (name : InvalidInput → InvalidInput) : Outcome α → Outcome α
  | .error (.validation cause) => refuse (name cause)
  | outcome => outcome

/-- Check the elements of a classpath from a position on. -/
def checkElements : Nat → List Value → Outcome Unit
  | _, [] => .ok ()
  | position, element :: rest => do
    inElement (.classpathElement position) (checkPath element)
    checkElements (position + 1) rest

/-- Check a classpath. -/
def checkClasspath : Value → Outcome Unit
  | .list elements => checkElements 0 elements
  | .tuple elements => checkElements 0 elements
  | _ => refuse .classpathNotAList

/-- The longest name of a transformer, in characters. -/
def longestTransformer : Nat := 1024

/-- Whether a character may start a segment of a transformer's name. -/
def startsSegment (c : Char) : Bool := c.isAlpha || c == '_'

mutual

/-- Whether the rest of a name goes on with word characters and further segments; the first segment
may hold hyphens.  A line feed at the very end does no harm. -/
def inSegment (first : Bool) : List Char → Bool
  | [] => true
  | ['\n'] => true
  | c :: rest =>
    if c == '.' || c == ':' then atSegment false rest
    else (Text.isWord c || (first && c == '-')) && inSegment first rest

/-- Whether a name goes on with a segment. -/
def atSegment (first : Bool) : List Char → Bool
  | [] => false
  | c :: rest => startsSegment c && inSegment first rest

end

/-- Whether a text is the name of a transformer: segments between dots and colons. -/
def isTransformerName (name : String) : Bool := atSegment true name.toList

/-- Check the name of a transformer. -/
def checkTransformer (value : Value) : Outcome Unit :=
  if !value.isTruthy then refuse .transformerMissing
  else match value with
    | .text name =>
      if longestTransformer < name.length then refuse .transformerTooLong
      else if isTransformerName name then .ok ()
      else refuse (.invalidTransformer name)
    | value => refuse (.transformerNotText value.kindClass)

/-- Check a value unless it is null. -/
def unlessNull (check : Value → Outcome Unit) : Value → Outcome Unit
  | .null => .ok ()
  | value => check value

/-- A truth value. -/
def checkBoolean (complaint : Value → InvalidInput) : Value → Outcome Unit
  | .boolean _ => .ok ()
  | value => refuse (complaint value)

/-- One of the names that a function knows. -/
def checkName {α : Type} (known : String → Option α) (complaint : Value → InvalidInput) :
    Value → Outcome Unit
  | .text name => if (known name).isSome then .ok () else refuse (complaint (.text name))
  | value => refuse (complaint value)

/-- Check the staging options. -/
def checkStaging : Value → Outcome Unit
  | .mapping staging => do
    unlessNull (checkName StagingPolicy.ofName? .invalidPolicy) (Value.field staging policyKey)
    unlessNull (checkBoolean .cleanAfterNotBoolean) (Value.field staging cleanAfterKey)
  | _ => refuse .stagingNotADictionary

/-- Check the section. -/
def checkSection : Value → Outcome Unit
  | .mapping options => do
    let option := Value.field options
    unlessNull checkTransformer (option transformerKey)
    unlessNull (fun value => (compileValue value).map fun _ => ()) (option filterKey)
    unlessNull (checkBoolean .failFastNotBoolean) (option failFastKey)
    unlessNull (checkName Scope.ofName? .invalidScope) (option scopeKey)
    unlessNull checkPath (option outputKey)
    unlessNull checkPath (option testOutputKey)
    inElement (.invalidClasspath classpathKey) (unlessNull checkClasspath (option classpathKey))
    inElement (.invalidClasspath testClasspathKey)
      (unlessNull checkClasspath (option testClasspathKey))
    match Value.field? options stagingKey with
    | some staging => checkStaging staging
    | none => .ok ()
  | _ => refuse .notADictionary

end Config
end ClassLoom
