import LintBridge.Cli.Request
import LintBridge.Config.Load
import LintBridge.Console.Table
import LintBridge.Json.Encode
import LintBridge.Session.Run
import LintBridge.Surroundings
/-!
Linting files once. The files go through a session of their own, one after the other, and
what it publishes is reported as JSON or in tables. A session for this keeps nothing for
later ones.
-/
namespace LintBridge.Cli

/-- What a caller's options set. Empty options set nothing. -/
def overrides (executable rules : Option String) : Value.Entries :=
  let given (name : String) (v : Option String) : Value.Entries :=
    match v with
    | some s => if s.isEmpty then [] else [(.text name, .text s)]
    | none => []
  let lint := given "executable_path" executable ++ given "rule_config_path" rules
  if lint.isEmpty then [] else [(.text "lint", .map lint)]

/-- The configuration for a workspace. -/
def settingsFor (around : Surroundings) (fs : FileSystem) (root : FilePath)
    (given : Value.Entries) : Config.Loaded :=
  Config.load ⟨fs, around.userFile, around.environment⟩ (some root) given

/-- A session for one command. -/
def oneSession (around : Surroundings) (fs : FileSystem) (root : FilePath)
    (settings : Config.Settings) : Session :=
  Session.fresh settings.lint [root] false fs.home around.packaged

namespace Check

/-- The language of a file, by the end of its name. -/
def language? (path : FilePath) : Option String :=
  [(".luau", "luau"), (".lua", "lua")].lookup path.suffix

/-- The URI under which a file is linted. -/
def uriOf (fs : FileSystem) (path : FilePath) : String :=
  Uri.ofPath (path.resolved fs.workingDirectory).text

/-- Lint files one after the other; one whose language is not linted has no outcome. -/
def lintFiles (s : Session) (fs : FileSystem) (ends : List ProcessEnd) :
    List FilePath → Turn (Except Failure (List Outcome))
  | [] => ⟨s, fs, [], .ok []⟩
  | path :: rest =>
    match fs.readText path with
    | .error f => ⟨s, fs, [], .error f⟩
    | .ok text =>
      let turn := s.lintDocument fs true none (uriOf fs path) text (language? path) ends
      let outcome : Except Failure (Option Outcome) := match turn.value with
        | .ended r => r
        | .held _ => .ok none
      match outcome with
      | .error f => ⟨turn.session, turn.files, turn.effects, .error f⟩
      | .ok o =>
        let more := lintFiles turn.session turn.files
          (ends.drop (turn.effects.countP Effect.isSpawn)) rest
        ⟨more.session, more.files, turn.effects ++ more.effects,
          more.value.map (o.toList ++ ·)⟩

/-- The spellings of files by their URIs; of several the last one counts. -/
def spellings (fs : FileSystem) (paths : List FilePath) : Assoc String FilePath :=
  paths.foldl (fun known path => known.put (uriOf fs path) path) []

/-- The outcomes with the spellings of their files. -/
def spelled (fs : FileSystem) (paths : List FilePath) (outcomes : List Outcome) :
    List (FilePath × Outcome) :=
  outcomes.filterMap fun o => ((spellings fs paths).get? o.uri).map fun path => (path, o)

/-- What the translation of a batch leaves in memory. Each diagnostic is an object with an
identity of its own, by which it is told apart from those that are equal to it; a quick fix
refers to the objects that it repairs. -/
structure Made where
  diagnostics : List (Nat × Diagnostic)
  fixes : List (StoredAction × List Nat)
  deriving DecidableEq, Repr

/-- One more finding: a new object, to which its quick fix refers if it has one. -/
def Made.add (m : Made) (f : Finding) : Made :=
  let identity := m.diagnostics.length
  { diagnostics := m.diagnostics ++ [(identity, f.diagnostic)]
    fixes := m.fixes ++ f.fix.toList.map fun fix => (fix, [identity]) }

/-- What an outcome has left in memory. -/
def made (o : Outcome) : Made := o.findings.foldl Made.add ⟨[], []⟩

/-- The identities of the diagnostics that have a quick fix. -/
def Made.fixable (m : Made) : List Nat := m.fixes.flatMap Prod.snd

/-- One diagnostic in the JSON report. Lines and columns count from one. -/
def diagnosticRecord (fixable : List Nat) (d : Nat × Diagnostic) : Value :=
  let start := d.2.range.toInterval.start
  .record [("line", .int (start.line + 1)), ("column", .int (start.character + 1)),
    ("severity", .int d.2.severity.number), ("code", .text d.2.code),
    ("message", .text d.2.message), ("fixable", .bool (fixable.contains d.1))]

/-- One file in the JSON report. -/
def fileRecord (path : FilePath) (o : Outcome) : Value :=
  let made := made o
  .record [("path", .text path.text),
    ("diagnostics", .list (made.diagnostics.map (diagnosticRecord made.fixable)))]

/-- The JSON report. -/
def jsonReport (entries : List (FilePath × Outcome)) : String :=
  Json.encodeIndented 2 (.list (entries.map fun e => fileRecord e.1 e.2)) ++ "\n"

/-- The word for a severity and its colour. -/
def severityLabel : Severity → String × String
  | .error => ("error", "red")
  | .warning => ("warning", "yellow")
  | .information => ("info", "cyan")
  | .hint => ("hint", "dim")

def fixMark : String := "✓"

/-- One diagnostic as a row of a table. -/
def diagnosticRow (fixable : List Nat) (d : Nat × Diagnostic) : List String :=
  let start := d.2.range.toInterval.start
  let (label, colour) := severityLabel d.2.severity
  [s!"{start.line + 1}:{start.character + 1}", s!"[{colour}]{label}[/{colour}]", d.2.code,
    d.2.message, if fixable.contains d.1 then fixMark else ""]

def headings : List Console.Heading :=
  [⟨"Location", .left⟩, ⟨"Severity", .left⟩, ⟨"Code", .left⟩, ⟨"Message", .left⟩, ⟨"Fix", .center⟩]

/-- The line for a file without findings. -/
def cleanLine (path : FilePath) : String := s!"[green]{fixMark}[/green] {path.text}"

/-- The table of a file with findings. -/
def fileTable (path : FilePath) (o : Outcome) : Console.Table :=
  let made := made o
  ⟨path.text, headings, made.diagnostics.map (diagnosticRow made.fixable)⟩

/-- One file in the report for people. -/
def fileText (console : Console.Writer) (path : FilePath) (o : Outcome) :
    Except Console.MarkupFault String :=
  if o.findings.isEmpty then console.line (cleanLine path) else console.table (fileTable path o)

/-- The report for people, as far as it can be written. -/
def textReport (console : Console.Writer) :
    List (FilePath × Outcome) → String × Option Console.MarkupFault
  | [] => ("", none)
  | (path, o) :: rest =>
    match fileText console path o with
    | .error f => ("", some f)
    | .ok s =>
      let (more, fault) := textReport console rest
      (s ++ more, fault)

/-- Is there an error in any file? -/
def anyErrors (outcomes : List Outcome) : Bool := outcomes.any Outcome.hasErrors

end Check
end LintBridge.Cli
