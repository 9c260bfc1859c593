import ClassLoom.CommandLine.Help
import ClassLoom.CommandLine.Reading
import ClassLoom.Config.Environment

namespace ClassLoom
namespace CommandLine

/-!
# The tool's commands

There are two commands with options of their own and some options in common.  What is given becomes
a source of the configuration; an option that is not given is null there, which replaces nothing.
-/

open Config (Value Mapping)

/-- The name of the tool and its version. -/
def toolVersion : String := "1.0.0"

def versionLine : String := "classweaver " ++ toolVersion

/-- An option that takes one argument. -/
def valued (name key : String) (choices : List String) : Switch := ⟨[name], key, .valued choices⟩

def helpSwitch : Switch := ⟨["-h", "--help"], "help", .help⟩

/-- The options of every command. -/
def commonSwitches : List Switch :=
  [helpSwitch, ⟨["-c", "--config"], "config", .valued []⟩,
   ⟨["--keep-going"], "keep_going", .flag⟩, ⟨["--debug"], "debug", .flag⟩,
   valued "--log-file" "log_file" []]

/-- The command line of the tool: its own options, and a command with everything that follows. -/
def mainGrammar : Grammar :=
  { program := "classweaver"
    switches := [helpSwitch, ⟨["-v", "--version"], "version", .version⟩]
    operands := [⟨"command", "COMMAND", .rest⟩]
    usage := mainUsage
    help := mainHelp }

/-- The command that transforms an archive. -/
def transformGrammar : Grammar :=
  { program := "classweaver transform"
    switches := commonSwitches ++
      [⟨["--classpath"], "classpath", .repeatable⟩,
       valued "--staging-policy" "staging_policy" ["reuse", "clean"],
       ⟨["--clean-staging"], "clean_staging", .flag⟩]
    operands := [⟨"jar_path", "jar_path", .one⟩, ⟨"transformer", "transformer", .one⟩,
      ⟨"filter_pattern", "filter_pattern", .optional⟩]
    usage := transformUsage
    help := transformHelp }

/-- The command that transforms what a build has compiled. -/
def processClassesGrammar : Grammar :=
  { program := "classweaver process-classes"
    switches := commonSwitches ++
      [valued "--output-directory" "output_directory" [],
       valued "--test-output-directory" "test_output_directory" [],
       valued "--transformer" "transformer" [], valued "--filter" "filter_pattern" [],
       ⟨["--classpath"], "classpath", .repeatable⟩,
       ⟨["--test-classpath"], "test_classpath", .repeatable⟩,
       valued "--scope" "scope" ["main", "test"]]
    operands := []
    usage := processClassesUsage
    help := processClassesHelp }

/-- The commands by name. -/
def commands : List (String × Grammar) :=
  [("transform", transformGrammar), ("process-classes", processClassesGrammar)]

/-- What only one of the commands is told. -/
inductive Selection where
  | transform (jar policy : Value) (clean : Bool)
  | processClasses (output testOutput testClasspath scope : Value)
  deriving Inhabited

/-- A command with its options; an option that is not given is null. -/
structure Arguments where
  selection : Selection
  transformer : Value
  filter : Value
  classpath : Value
  config : Value
  keepGoing : Bool
  debug : Bool
  logFile : Value
  deriving Inhabited

namespace Arguments

/-- The name of the command. -/
def command (arguments : Arguments) : String :=
  match arguments.selection with
  | .transform _ _ _ => "transform"
  | .processClasses _ _ _ _ => "process-classes"

/-- The archive that is to be transformed. -/
def jar (arguments : Arguments) : Value :=
  match arguments.selection with
  | .transform jar _ _ => jar
  | .processClasses _ _ _ _ => .null

/-- The arguments of a command that has been read. -/
def ofValues (command : String) (values : Mapping) : Arguments :=
  let value := Value.field values
  { selection :=
      if command == "transform" then
        .transform (value "jar_path") (value "staging_policy") (value "clean_staging").isTruthy
      else .processClasses (value "output_directory") (value "test_output_directory")
        (value "test_classpath") (value "scope")
    transformer := value "transformer"
    filter := value "filter_pattern"
    classpath := value "classpath"
    config := value "config"
    keepGoing := (value "keep_going").isTruthy
    debug := (value "debug").isTruthy
    logFile := value "log_file" }

/-- Every argument by its key. -/
def fields (arguments : Arguments) : List (String × Value) :=
  let own := match arguments.selection with
    | .transform jar policy clean =>
      [("jar_path", jar), ("staging_policy", policy), ("clean_staging", .boolean clean)]
    | .processClasses output testOutput testClasspath scope =>
      [("output_directory", output), ("test_output_directory", testOutput),
       ("test_classpath", testClasspath), ("scope", scope)]
  own ++ [("command", .text arguments.command), ("transformer", arguments.transformer),
    ("filter_pattern", arguments.filter), ("classpath", arguments.classpath),
    ("config", arguments.config), ("keep_going", .boolean arguments.keepGoing),
    ("debug", .boolean arguments.debug), ("log_file", arguments.logFile)]

/-- Read the words of a command line. -/
def read (words : List String) : Except Halt Arguments := do
  let line ← mainGrammar.read versionLine words
  let name := line.rest.headD ""
  match commands.lookup name with
  | none => throw (.refused mainGrammar (.invalidChoice "COMMAND" name (commands.map (·.1))))
  | some grammar =>
    let own ← grammar.read versionLine (line.rest.drop 1)
    let extras := line.extras ++ own.extras
    if !extras.isEmpty then throw (.refused mainGrammar (.unrecognized extras))
    return ofValues name own.values

end Arguments

/-! ## As a source of the configuration -/

/-- The elements of repeated classpath options, each cut at the colons. -/
def classpathOf : Value → Value
  | .list values =>
    if values.isEmpty then .null
    else .list (values.flatMap fun value => (Config.splitPaths value.plain).map .text)
  | _ => .null

/-- A truth value that is null unless a flag is given. -/
def ifGiven (flag value : Bool) : Value := if flag then .boolean value else .null

/-- The section that arguments make. -/
def Arguments.options (arguments : Arguments) : Value :=
  let own := match arguments.selection with
    | .transform _ policy clean =>
      [(Config.stagingKey, .ofFields [(Config.policyKey, policy),
        (Config.cleanAfterKey, ifGiven clean true)])]
    | .processClasses output testOutput testClasspath scope =>
      [(Config.outputKey, output), (Config.testOutputKey, testOutput),
       (Config.testClasspathKey, classpathOf testClasspath), (Config.scopeKey, scope)]
  .ofFields ([(Config.failFastKey, ifGiven arguments.keepGoing false),
    (Config.classpathKey, classpathOf arguments.classpath),
    (Config.transformerKey, arguments.transformer), (Config.filterKey, arguments.filter)] ++ own ++
    [(Config.loggingKey, .ofFields [
      (Config.levelKey, if arguments.debug then .text "DEBUG" else .null),
      (Config.logFileKey, arguments.logFile)])])

/-- The configuration that arguments make. -/
def Arguments.configuration (arguments : Arguments) : Value :=
  .ofFields [(Config.sectionName, arguments.options)]

end CommandLine
end ClassLoom
