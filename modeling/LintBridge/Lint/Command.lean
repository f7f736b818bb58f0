/-!
The command line of one linter run: the executable, the subcommand, the rule arguments,
and last the whole text of the document as a single argument.
-/
namespace LintBridge.Command

def subcommand : String := "lint"
def sourceFlag : String := "-s"
def jsonFlag : String := "-j"
def rulesFlag : String := "-r"

/-- The arguments of one pass: JSON output, and a rule file unless its path is empty. -/
def ruleArgs (rules : Option String) : List String :=
  match rules with
  | some path => if path.isEmpty then [jsonFlag] else [jsonFlag, rulesFlag, path]
  | none => [jsonFlag]

/-- The command line for a document text. -/
def line (executable : String) (ruleArgs : List String) (text : String) : List String :=
  executable :: subcommand :: ruleArgs ++ [sourceFlag, text]

/-- Does an argument or the working directory hold the character NUL? No process can be
started with one. -/
def holdsNul (command : List String) (cwd : Option String) : Bool :=
  (command ++ cwd.toList).any fun a => a.toList.contains '\x00'

end LintBridge.Command
