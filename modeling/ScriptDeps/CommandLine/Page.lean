import ScriptDeps.Log

namespace ScriptDeps.CommandLine

open Text (lit)

/-! # Commands and switches

The words of a command line are switches, which start with a dash, and operands. The first operand
is a command, which has switches and operands of its own.
-/

/-- The name of the program. -/
def program : String := "webtask-analyzer"

/-- The version of the program. -/
def version : String := "0.1.0"

/-! ## Commands -/

/-- What the program can be asked to do. -/
inductive Command where
  /-- Print the dependencies of scripts. -/
  | analyze
  /-- Print the modules of the cluster. -/
  | modules
deriving DecidableEq, Repr

namespace Command

/-- The word for a command. -/
def name : Command → String
  | analyze => "analyze"
  | modules => "modules"

/-- All commands. -/
def all : List Command := [analyze, modules]

/-- The command that a word stands for. -/
def ofWord? (t : Text) : Option Command := all.find? fun c => lit c.name == t

/-- The command needs operands. -/
def takesFiles : Command → Bool
  | analyze => true
  | modules => false

end Command

/-! ## Switches -/

/-- Something that a word with a dash asks for. -/
inductive Switch where
  | help
  | version
  | logLevel
  | profile
deriving DecidableEq, Repr

namespace Switch

/-- The spellings of a switch. -/
def names : Switch → List String
  | help => ["-h", "--help"]
  | version => ["--version"]
  | logLevel => ["--log-level"]
  | profile => ["--profile"]

/-- The switch is followed by a value. -/
def takesValue : Switch → Bool
  | help => false
  | version => false
  | logLevel => true
  | profile => true

end Switch

/-! ## Pages -/

/-- A set of words with their explanation: that of the program or that of a command. -/
inductive Page where
  | program
  | command (c : Command)
deriving DecidableEq, Repr

namespace Page

/-- The words that lead to a page. -/
def title : Page → String
  | program => CommandLine.program
  | command c => CommandLine.program ++ " " ++ c.name

/-- The switches of a page. -/
def switches : Page → List Switch
  | program => [.help, .version, .logLevel, .profile]
  | command _ => [.help]

/-- The spellings of all switches of a page. -/
def spellings (p : Page) : List (String × Switch) :=
  p.switches.flatMap fun s => s.names.map (·, s)

/-- The levels as a choice. -/
def levelChoice : String :=
  "\x7b" ++ ",".intercalate (Log.Level.all.map Log.Level.name) ++ "\x7d"

/-- The commands as a choice. -/
def commandChoice : String := "\x7b" ++ ",".intercalate (Command.all.map Command.name) ++ "\x7d"

/-- How the words of a page follow each other. -/
def usageLines : Page → List String
  | program =>
    ["usage: webtask-analyzer [-h] [--version]",
      "                        [--log-level " ++ levelChoice ++ "]",
      "                        [--profile PROFILE]",
      "                        " ++ commandChoice ++ " ..."]
  | command .analyze => ["usage: webtask-analyzer analyze [-h] files [files ...]"]
  | command .modules => ["usage: webtask-analyzer modules [-h]"]

/-- What the words of a page mean. -/
def helpLines : Page → List String
  | program =>
    ["",
      "webtask-analyzer: static dependency analysis for webtask scripts",
      "",
      "Reports every require() call and every undeclared global in a script, with",
      "requires resolved against the modules available on a webtask cluster.",
      "",
      "The cluster is taken from WEBTASK_CLUSTER_URL, WEBTASK_CONTAINER and",
      "WEBTASK_TOKEN when set, otherwise from a profile in ~/.webtask.",
      "",
      "positional arguments:",
      "  " ++ commandChoice ++ "     Available commands",
      "    analyze             Print the resolved dependencies of scripts as JSON",
      "    modules             Print the module catalog of the cluster as JSON",
      "",
      "options:",
      "  -h, --help            show this help message and exit",
      "  --version             show program's version number and exit",
      "  --log-level " ++ levelChoice,
      "                        Set the logging level (default: WARNING)",
      "  --profile PROFILE     webtask profile to use when no WEBTASK_* variables are set " ++
        "(default: default)"]
  | command .analyze =>
    ["",
      "positional arguments:",
      "  files       Script files or directories (searched recursively, excluding node_modules)",
      "",
      "options:",
      "  -h, --help  show this help message and exit"]
  | command .modules =>
    ["",
      "options:",
      "  -h, --help  show this help message and exit"]

/-- Lines as a text. -/
def lines (ls : List String) : Text := ls.flatMap fun l => lit l ++ [0x0A]

/-- How the words of a page follow each other, as a text. -/
def usage (p : Page) : Text := lines p.usageLines

/-- The whole page. -/
def help (p : Page) : Text := p.usage ++ lines p.helpLines

end Page

end ScriptDeps.CommandLine
