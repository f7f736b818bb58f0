import LintBridge.Cli.Arguments
import LintBridge.Text.Quoted
/-!
The commands of the program, with their options, their help, and the texts of faults in
their use.
-/
namespace LintBridge.Cli

/-- The program itself and its commands. -/
inductive Command where
  | program | check | resolve | serve
  deriving DecidableEq, Repr

/-- The name under which the program speaks of itself in usage lines. -/
def programName : String := "cli"

def helpOption : OptionSpec := ⟨["--help"], none, "Show this message and exit."⟩

/-- The program's version line. -/
def versionLine : String := "lutels, version 0.1.0"

namespace Command

def subcommands : List Command := [check, resolve, serve]

def name : Command → String
  | program => programName
  | check => "check"
  | resolve => "resolve"
  | serve => "serve"

/-- The words that call a command. -/
def path : Command → String
  | program => programName
  | c => programName ++ " " ++ c.name

/-- What stands after the options in a usage line. -/
def operands : Command → List String
  | program => ["COMMAND", "[ARGS]..."]
  | check => ["FILES..."]
  | resolve => ["[PATH]"]
  | serve => []

def options : Command → List OptionSpec
  | program => [⟨["--version"], none, "Show the version and exit."⟩,
      ⟨["-v", "--verbose"], none, "Enable debug logging"⟩, helpOption]
  | check =>
    [⟨["-w", "--workspace"], some "DIRECTORY", "Workspace root (default: current directory)"⟩,
      ⟨["-e", "--executable"], some "TEXT", "Linter executable to use"⟩,
      ⟨["-r", "--rules"], some "TEXT", "Rule-config file for a second lint pass"⟩,
      ⟨["--json"], none, "Output as JSON"⟩, helpOption]
  | resolve => [⟨["--json"], none, "Output as JSON"⟩, helpOption]
  | serve => [⟨["--tcp"], none, "Listen on TCP instead of stdio"⟩,
      ⟨["--host"], some "TEXT", "TCP bind address  [default: 127.0.0.1]"⟩,
      ⟨["--port"], some "INTEGER", "TCP port  [default: 2087]"⟩, helpOption]

/-- What a command does, in paragraphs. -/
def description : Command → List String
  | program => ["lutels - lute lint diagnostics and quick fixes for any LSP editor."]
  | check => ["Lint FILES and print their diagnostics.",
      "Exits with status 1 when any error-severity diagnostic is reported."]
  | resolve => ["Resolve the linter toolchain for a workspace.",
      "PATH is the workspace root (default: current directory)."]
  | serve => ["Start the language server (stdio by default)."]

def usageLine (c : Command) : String :=
  String.intercalate " " (["Usage:", c.path, "[OPTIONS]"] ++ c.operands) ++ "\n"

end Command

/-- Two columns of text, the right one two cells after the longest entry of the left one. -/
def twoColumns (rows : List (String × String)) : String :=
  let width := (rows.map fun r => r.1.length).foldl max 0 + 2
  String.join (rows.map fun (left, right) =>
    "  " ++ left ++ String.ofList (List.replicate (width - left.length) ' ') ++ right ++ "\n")

/-- The left column of an option's help. -/
def OptionSpec.form (o : OptionSpec) : String :=
  String.intercalate ", " o.names ++ (o.value.elim "" fun v => " " ++ v)

/-- The help of a command. -/
def Command.help (c : Command) : String :=
  let paragraphs := c.description.map fun p => "  " ++ p ++ "\n\n"
  let options := "Options:\n" ++ twoColumns (c.options.map fun o => (o.form, o.help))
  let commands := if c = .program then
      "\nCommands:\n" ++ twoColumns (subcommands.map fun s => (s.name, s.description.headD ""))
    else ""
  c.usageLine ++ "\n" ++ String.join paragraphs ++ options ++ commands

/-- Why a word is no value of the kind that is wanted. -/
inductive ValueFault where
  | notFound (kind path : String)
  | isFile (kind path : String)
  | isDirectory (kind path : String)
  | notInteger (word : String)
  deriving DecidableEq, Repr

def ValueFault.message : ValueFault → String
  | notFound kind path => s!"{kind} {Text.quoted path} does not exist."
  | isFile kind path => s!"{kind} {Text.quoted path} is a file."
  | isDirectory kind path => s!"{kind} {Text.quoted path} is a directory."
  | notInteger word => s!"{Text.quoted word} is not a valid integer."

/-- A fault in the use of a command. -/
inductive UsageFault where
  | argument (f : ArgumentFault)
  | noSuchCommand (name : String) (alike : List String)
  | commandMissing
  | operandMissing (name : String)
  | invalidValue (parameter : String) (f : ValueFault)
  | extraWords (words : List String)
  deriving DecidableEq, Repr

/-- What a name may have been meant for. -/
def alikeText (alike : List String) : String :=
  match alike with
  | [] => ""
  | [name] => s!" Did you mean {Text.quoted name}?"
  | names =>
    let sorted := names.mergeSort fun a b => decide (a ≤ b)
    " (Did you mean one of: " ++ String.intercalate ", " (sorted.map Text.quoted) ++ "?)"

def UsageFault.message : UsageFault → String
  | argument (.noSuchOption name alike) => s!"No such option {Text.quoted name}." ++ alikeText alike
  | argument (.valueMissing name) => s!"Option {Text.quoted name} requires an argument."
  | argument (.valueUnwanted name) => s!"Option {Text.quoted name} does not take a value."
  | noSuchCommand name alike => s!"No such command {Text.quoted name}." ++ alikeText alike
  | commandMissing => "Missing command."
  | operandMissing name => s!"Missing argument '{name}'."
  | invalidValue parameter f => s!"Invalid value for {parameter}: {f.message}"
  | extraWords words =>
    let noun := if words.length = 1 then "argument" else "arguments"
    s!"Got unexpected extra {noun} (" ++ String.intercalate " " words ++ ")"

/-- A fault with the usage of the command in which it was made. -/
def UsageFault.report (c : Command) (f : UsageFault) : String :=
  c.usageLine ++ s!"Try '{c.path} --help' for help.\n\nError: {f.message}\n"

end LintBridge.Cli
