namespace ClassLoom
namespace CommandLine

/-!
# Usage and help

The texts that a command shows, line by line, as they fit on a screen of eighty columns.
-/

/-- How the tool is used. -/
def mainUsage : List String := [
  "usage: classweaver [-h] [-v] COMMAND ..."]

/-- The help on the tool after its usage. -/
def mainHelp : List String := [
  "",
  "ClassWeaver - bytecode transformation for class directories and jars",
  "",
  "positional arguments:",
  "  COMMAND",
  "    transform      Rewrite the classes of a jar archive",
  "    process-classes",
  "                   Rewrite the classes of a compiled output directory in place",
  "",
  "options:",
  "  -h, --help       show this help message and exit",
  "  -v, --version    show program's version number and exit",
  "",
  "Examples:",
  "  # Transform every class of a jar",
  "  classweaver transform app.jar mypkg.weaving:EntityEnhancer",
  "",
  "  # Only classes whose path matches a pattern, with extra classpath",
  "  classweaver transform app.jar enhancer \"model/.*Entity\" --classpath lib/dep.jar",
  "",
  "  # Transform a compiled output directory in place",
  "  classweaver process-classes --output-directory target/classes --transformer enhancer",
  "",
  "  # Use a configuration file",
  "  classweaver process-classes --config classweaver.yaml --scope test",
  "        "]

/-- How transforming an archive is used. -/
def transformUsage : List String := [
  "usage: classweaver transform [-h] [-c FILE] [--keep-going] [--debug]",
  "                             [--log-file FILE] [--classpath PATH]",
  "                             [--staging-policy \x7breuse,clean\x7d]",
  "                             [--clean-staging]",
  "                             jar_path transformer [filter_pattern]"]

/-- The help on transforming an archive after its usage. -/
def transformHelp : List String := [
  "",
  "positional arguments:",
  "  jar_path              Jar archive to transform",
  "  transformer           Transformer name or import path",
  "  filter_pattern        Regular expression searched in class file paths",
  "",
  "options:",
  "  -h, --help            show this help message and exit",
  "  -c FILE, --config FILE",
  "                        Configuration file path (YAML format)",
  "  --keep-going          Attempt every class and report all failures at the end",
  "  --classpath PATH      Additional classpath elements (:-separated,",
  "                        repeatable)",
  "",
  "logging options:",
  "  --debug               Enable debug logging",
  "  --log-file FILE       Also write the log to a rotating file",
  "",
  "staging options:",
  "  --staging-policy \x7breuse,clean\x7d",
  "                        What to do with a leftover staging directory (default:",
  "                        reuse)",
  "  --clean-staging       Delete the staging directory after a successful run"]

/-- How a build run is used. -/
def processClassesUsage : List String := [
  "usage: classweaver process-classes [-h] [-c FILE] [--keep-going] [--debug]",
  "                                   [--log-file FILE] [--output-directory DIR]",
  "                                   [--test-output-directory DIR]",
  "                                   [--transformer NAME] [--filter REGEX]",
  "                                   [--classpath PATH] [--test-classpath PATH]",
  "                                   [--scope \x7bmain,test\x7d]"]

/-- The help on a build run after its usage. -/
def processClassesHelp : List String := [
  "",
  "options:",
  "  -h, --help            show this help message and exit",
  "  -c FILE, --config FILE",
  "                        Configuration file path (YAML format)",
  "  --keep-going          Attempt every class and report all failures at the end",
  "  --output-directory DIR",
  "                        Main classes directory",
  "  --test-output-directory DIR",
  "                        Test classes directory",
  "  --transformer NAME    Transformer name or import path",
  "  --filter REGEX        Path filter",
  "  --classpath PATH      Compile classpath elements",
  "  --test-classpath PATH",
  "                        Test classpath elements",
  "  --scope \x7bmain,test\x7d   Which output to transform (default: main)",
  "",
  "logging options:",
  "  --debug               Enable debug logging",
  "  --log-file FILE       Also write the log to a rotating file"]

end CommandLine
end ClassLoom
