/-!
The options of the command line, the shape of its arguments, and what the program says about its own
use. A switch is on when it is given; the other options take a value, in the same argument after an
equals sign or in the next one.
-/

namespace Dialogue.CommandLine

/-- Where on the command line an option stands: before the name of the activity or after it. -/
inductive Level
  | general
  | test
deriving Repr, DecidableEq

/-- The options without a value. -/
inductive Switch
  /-- The log is shown for scenarios that pass too. -/
  | verbose
  /-- The scenario is in the kit format, which is read like any other. -/
  | kit
  /-- The artifact runs by itself. -/
  | native
  /-- Help is asked for. -/
  | help
  /-- The version is asked for. -/
  | version
deriving Repr, DecidableEq

/-- The options with a value. -/
inductive Valued
  /-- The directory of the build output. -/
  | target
  /-- The extension of artifacts. -/
  | extension
  /-- The program that runs artifacts. -/
  | launcher
  /-- One more argument of the launcher. -/
  | launcherArg
  /-- How many seconds a read may take. -/
  | timeout
deriving Repr, DecidableEq

namespace Switch

/-- The switches that may be given at a level. -/
def allowed : Level → List Switch
  | .general => [.verbose, .help, .version]
  | .test => [.verbose, .kit, .native, .help]

/-- The name of a switch, which is given after two hyphens. -/
def name : Switch → String
  | .verbose => "verbose"
  | .kit => "kit"
  | .native => "native"
  | .help => "help"
  | .version => "version"

/-- The letter of a switch, which is given after one hyphen. -/
def letter? : Switch → Option Char
  | .verbose => some 'v'
  | .kit => some 'k'
  | .native => none
  | .help => some 'h'
  | .version => some 'V'

end Switch

namespace Valued

/-- The options with a value that may be given at a level. -/
def allowed : Level → List Valued
  | .general => []
  | .test => [.target, .extension, .launcher, .launcherArg, .timeout]

/-- The name of an option, which is given after two hyphens. -/
def name : Valued → String
  | .target => "target"
  | .extension => "ext"
  | .launcher => "launcher"
  | .launcherArg => "launcher-arg"
  | .timeout => "timeout"

/-- Whether an option may be given more than once. -/
def repeats : Valued → Bool
  | .launcherArg => true
  | _ => false

/-- Whether the next argument is the value of an option even if it starts with a hyphen. -/
def takesHyphens : Valued → Bool
  | .launcherArg => true
  | _ => false

end Valued

/-- What an argument looks like. -/
inductive Argument
  /-- A word of its own. -/
  | word
  /-- The mark after which there are only words. -/
  | onlyWords
  /-- The name of an option, perhaps with a value. -/
  | named (name : String) (value : Option String)
  /-- Letters of switches. -/
  | letters (all : List Char)
deriving Repr, DecidableEq

/-- What an argument looks like. A single hyphen is a word. -/
def Argument.of (text : String) : Argument :=
  match text.toList with
  | ['-', '-'] => .onlyWords
  | '-' :: '-' :: rest =>
    let name := rest.takeWhile (· ≠ '=')
    match rest.dropWhile (· ≠ '=') with
    | [] => .named (String.ofList name) none
    | _ :: value => .named (String.ofList name) (some (String.ofList value))
  | '-' :: first :: others => .letters (first :: others)
  | _ => .word

/-- The name and the version of the program. -/
def versionText : String := "lunit 0.1.0\n"

/-- The help on the program as a whole. -/
def generalHelp : String :=
  "Drive a program through an interactive test script\n\n" ++
  "Usage: lunit [OPTIONS] <COMMAND>\n\n" ++
  "Commands:\n" ++
  "  test  Run tests\n" ++
  "  help  Print this message or the help of the given subcommand(s)\n\n" ++
  "Options:\n" ++
  "  -v, --verbose  Verbose output: show the execution log for passing runs too\n" ++
  "  -h, --help     Print help\n" ++
  "  -V, --version  Print version\n"

/-- The help on playing a scenario. -/
def testHelp : String :=
  "Run tests\n\n" ++
  "Usage: lunit test [OPTIONS] <ENTRY> <TEST>\n\n" ++
  "Arguments:\n" ++
  "  <ENTRY>  Entry artifact name (e.g. Main)\n" ++
  "  <TEST>   Test script path\n\n" ++
  "Options:\n" ++
  "  -k, --kit                           Use kit format\n" ++
  "  -v, --verbose                       Verbose output: show the execution log for passing " ++
    "runs too\n" ++
  "      --target <TARGET_DIR>           Build-output root searched for the entry " ++
    "[default: target/classes]\n" ++
  "      --ext <EXTENSION>               Artifact extension [default: class]\n" ++
  "      --launcher <LAUNCHER>           Program that runs the artifact [default: java]\n" ++
  "      --launcher-arg <LAUNCHER_ARGS>  Extra launcher argument (repeatable)\n" ++
  "      --native                        Run the artifact directly instead of through a " ++
    "launcher\n" ++
  "      --timeout <TIMEOUT>             Give up on a read after this many seconds " ++
    "[env: LUNIT_TIMEOUT]\n" ++
  "  -h, --help                          Print help\n"

/-- The help on help. -/
def helpHelp : String :=
  "Print this message or the help of the given subcommand(s)\n\n" ++
  "Usage: lunit help [COMMAND]...\n\n" ++
  "Arguments:\n" ++
  "  [COMMAND]...  Print help for the subcommand(s)\n"

end Dialogue.CommandLine
