import ClassLoom.Config.Layers
import ClassLoom.Decimal.Reading
import ClassLoom.Text.LetterCase

namespace ClassLoom
namespace Config

/-!
# Options from environment variables

A variable whose name starts with the name of the tool sets an option: what follows is the key, or a
group and a key in it.  The value of an option that holds text is kept as it is, classpaths are cut
at the colons, and any other value is a truth value or a number if it looks like one.
-/

/-- Environment variables in the order in which they were first set. -/
abbrev Variables := List (String × String)

/-- Set a variable. -/
def Variables.assign (environment : Variables) (name value : String) : Variables :=
  if environment.any (·.1 == name) then
    environment.map fun e => if e.1 == name then (name, value) else e
  else environment ++ [(name, value)]

/-- What the names of the tool's variables start with. -/
def variableStart : String := "CLASSWEAVER_"

/-- The keys that hold an underscore and are in no group. -/
def compoundKeys : List String :=
  [filterKey, failFastKey, outputKey, testOutputKey, testClasspathKey, cleanAfterKey]

/-- The keys of options that hold text. -/
def textKeys : List String :=
  [transformerKey, filterKey, outputKey, testOutputKey, logFileKey]

/-- The path of an option in the section: the key, or what is before and after the first
underscore. -/
def optionPath (name : String) : List String :=
  let group := name.toList.takeWhile (· != '_')
  if compoundKeys.contains name || group.length = name.length then [name]
  else [String.ofList group, String.ofList (name.toList.drop (group.length + 1))]

/-- The elements of a classpath between colons. -/
def splitPaths (text : String) : List String :=
  ((Files.splitAt ':' text.toList).filter fun piece => !piece.isEmpty).map String.ofList

/-- The value that a text looks like: a truth value, a number, or a text. -/
def guessed (text : String) : Value :=
  let word := Text.lower text
  if word == "true" || word == "yes" then .boolean true
  else if word == "false" || word == "no" then .boolean false
  else match Decimal.whole? 10 text.toList, Decimal.real? text.toList with
    | some number, _ => .integer number
    | none, some number => .real number
    | none, none => .text text

/-- The value of an option. -/
def optionValue (key text : String) : Value :=
  if key == classpathKey || key == testClasspathKey then .list ((splitPaths text).map .text)
  else if textKeys.contains key then .text text
  else guessed text

/-- The options that variables set.  An option and a group of the same name cannot both be set,
unless the option comes last. -/
def optionsOf (environment : Variables) : Outcome Value :=
  environment.foldlM (fun options (name, text) =>
    if variableStart.isPrefixOf name then
      let key := Text.lower (String.ofList (name.toList.drop variableStart.length))
      let path := optionPath key
      putAt (optionValue (path.getLastD "") text) path options
    else .ok options) (.mapping [])

/-- A configuration with the options that variables set, if they set any. -/
def Layers.loadVariables (layers : Layers) (environment : Variables) : Outcome Layers := do
  let options ← optionsOf environment
  if options.isTruthy then return layers.load .environment (.ofFields [(sectionName, options)])
  return layers

end Config
end ClassLoom
