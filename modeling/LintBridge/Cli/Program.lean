import LintBridge.Cli.Resolve
import LintBridge.Log.Setup
/-!
The program as a command line sees it: what it writes, with which status it ends, which
processes it starts on the way, and where it begins to listen.
-/
namespace LintBridge.Cli

/-- How a run ends: with a status, or with a failure that nothing takes care of. -/
inductive Ending where
  | status (n : Nat)
  | failed (f : Failure)
  deriving Repr

/-- A run of the program. -/
structure Run where
  stdout : String
  stderr : String
  ending : Ending
  effects : List Effect
  /-- The log as it is set up at the end, if it ever was. -/
  log : Option Log.Setup
  listening : Option Listening
  files : FileSystem

namespace Run

/-- A run that did nothing yet. -/
def idle (fs : FileSystem) (log : Option Log.Setup) : Run :=
  ⟨"", "", .status 0, [], log, none, fs⟩

/-- End with a message for people. -/
def complain (r : Run) (message : String) : Run :=
  { r with stderr := r.stderr ++ s!"Error: {message}\n", ending := .status 1 }

/-- End with a failure. Faults of the configuration are told to people. -/
def fail (r : Run) (f : Failure) : Run :=
  match f with
  | .fault fault =>
    if fault.family = .config then r.complain fault.summary else { r with ending := .failed f }
  | f => { r with ending := .failed f }

def did (r : Run) (effects : List Effect) : Run := { r with effects := r.effects ++ effects }

def print (r : Run) (s : String) : Run := { r with stdout := r.stdout ++ s }

end Run

/-- Take over what was reported while the configuration was loaded, and go on if there is one. -/
def withSettings (r : Run) (loaded : Config.Loaded) (next : Run → Config.Settings → Run) : Run :=
  let r := r.did (Session.reports none loaded.events)
  match loaded.result with
  | .error f => r.fail f
  | .ok settings => next r settings

/-- Write the report on the files that were linted. -/
def reportChecks (console : Console.Writer) (r : Run) (request : CheckRequest)
    (outcomes : List Outcome) : Run :=
  let ending := Ending.status (if Check.anyErrors outcomes then 1 else 0)
  let entries := Check.spelled r.files request.files outcomes
  if request.json then { r.print (Check.jsonReport entries) with ending }
  else match Check.textReport console entries with
    | (s, none) => { r.print s with ending }
    | (s, some fault) => { r.print s with ending := .failed (.markup fault) }

def noLinter : String := "No linter executable found."

def runCheck (around : Surroundings) (ends : List ProcessEnd) (r : Run)
    (request : CheckRequest) : Run :=
  let root := (request.workspace.getD ⟨0, []⟩).resolved r.files.workingDirectory
  let given := overrides request.executable request.rules
  withSettings r (settingsFor around r.files root given) fun r settings =>
    let found := (oneSession around r.files root settings).ensureToolchain r.files
    let r := { r.did found.effects with files := found.files }
    match found.value with
    | .error e => r.fail (.system e)
    | .ok none => r.complain (noLinter ++ " Set lint.executable_path or pass --executable.")
    | .ok (some _) =>
      let turn := Check.lintFiles found.session r.files ends request.files
      let r := { r.did turn.effects with files := turn.files }
      match turn.value with
      | .error f => r.fail f
      | .ok outcomes => reportChecks around.console r request outcomes

def runResolve (around : Surroundings) (r : Run) (request : ResolveRequest) : Run :=
  let root := request.path.resolved r.files.workingDirectory
  withSettings r (settingsFor around r.files root []) fun r settings =>
    let turn := Resolve.find (oneSession around r.files root settings) r.files
    let r := { r.did turn.effects with files := turn.files }
    match turn.value with
    | .error e => r.fail (.system e)
    | .ok found =>
      if request.json then r.print (Resolve.jsonReport found)
      else match found with
        | some found => r.print (Resolve.textReport found)
        | none => r.complain noLinter

def runServe (around : Surroundings) (verbose : Bool) (r : Run) (listening : Listening) : Run :=
  let loaded := Config.load ⟨r.files, around.userFile, around.environment⟩ none []
  withSettings r loaded fun r settings =>
    let config := settings.logging
    let level := if verbose then .debug else config.level
    let setup := Log.Setup.ofConfig { config with level := level }
    match setup.openFiles r.files with
    | .error e => { r with ending := .failed (.system e), log := some setup }
    | .ok files => { r with files, log := some setup, listening := some listening }

/-- The log of the program before a command sets up another one. -/
def firstLog (verbose : Bool) : Log.Setup := .single .console (if verbose then .debug else .warning)

/-- End a run whose command line asks for nothing to be done, or do what it asks for. -/
def Run.answer {α : Type} (r : Run) (a : Asked α) (act : α → Run) : Run :=
  match a with
  | .request x => act x
  | .help c => r.print c.help
  | .version => r.print (versionLine ++ "\n")
  | .helpForNothing => { r with stderr := r.stderr ++ Command.help .program, ending := .status 2 }
  | .misused c f => { r with stderr := r.stderr ++ f.report c, ending := .status 2 }
  | .failed f => { r with ending := .failed f }

/-- Run a request. -/
def runRequest (around : Surroundings) (ends : List ProcessEnd) (verbose : Bool) (r : Run) :
    Request → Run
  | .check request => runCheck around ends r request
  | .resolve request => runResolve around r request
  | .serve listening => runServe around verbose r listening

/-- Run the program with the words of a command line on a file system. The processes that
it starts come to the given ends. -/
def run (around : Surroundings) (fs : FileSystem) (ends : List ProcessEnd)
    (words : List String) : Run :=
  (Run.idle fs none).answer (called words) fun c =>
    let r := Run.idle fs (some (firstLog c.verbose))
    r.answer (c.command.request fs c.words) (runRequest around ends c.verbose r)

end LintBridge.Cli
