import LintBridge.Session.State
import LintBridge.Lint.Invocation
import LintBridge.Config.RuntimeState
import LintBridge.RulePath
/-!
A lint cycle as a machine that pauses. It pauses while the linter is searched for and
while a process of the linter runs; whatever else the session does in between is seen when
the cycle goes on. The last step publishes, unless something was begun for the same
document after the cycle.
-/
namespace LintBridge

/-- What a step does to the world outside the session. -/
inductive Effect where
  | report (e : Log.Entry)
  | spawn (command : List String) (cwd : Option String)
  | kill
  | await
  | publish (uri : String) (diagnostics : List Diagnostic)
  deriving Repr

/-- Does an effect start a process? -/
def Effect.isSpawn : Effect → Bool
  | .spawn .. => true
  | _ => false

/-- What a published cycle leaves. -/
structure Outcome where
  uri : String
  generation : Nat
  findings : List Finding
  invocations : Nat
  deriving Repr

namespace Outcome

def diagnostics (o : Outcome) : List Diagnostic := Finding.diagnostics o.findings
def actions (o : Outcome) : List StoredAction := Finding.actions o.findings

/-- Does any diagnostic have the gravest severity? -/
def hasErrors (o : Outcome) : Bool := o.diagnostics.any fun d => d.severity = .error

end Outcome

/-- What a cycle keeps from its first pass on: the linter, its working directory and its
time limit. -/
structure PassPlan where
  executable : String
  cwd : Option String
  limit : Option Seconds
  deriving DecidableEq, Repr

/-- Where a cycle pauses. -/
inductive Stage where
  | searching (search : Toolchain.Search)
  | basePass (plan : PassPlan)
  | rulesPass (plan : PassPlan) (rulesPath : String) (base : List Violation)
  deriving Repr

/-- A cycle that pauses. -/
structure Cycle where
  uri : String
  source : String
  generation : Nat
  stage : Stage
  deriving Repr

/-- What a cycle was waiting for. -/
inductive Reply where
  | looked
  | ended (e : ProcessEnd)
  deriving Repr

/-- How a cycle stands after a step. -/
inductive Standing where
  | paused (c : Cycle)
  | ended (result : Except Failure (Option Outcome))
  deriving Repr

/-- A step of a session: the state and files behind it, what it did outside, and what it
gives. -/
structure Turn (α : Type) where
  session : Session
  files : FileSystem
  effects : List Effect
  value : α

namespace Session

/-- Reports inside a cycle, or outside of all. -/
def reports (cycle : Option Log.CycleContext) (events : List Log.Event) : List Effect :=
  events.map fun e => .report ⟨cycle, e⟩

/-- The linter that comes with the program, unless another one is configured for that. -/
def bundledPath (s : Session) : String :=
  match s.config.bundledExecutable with
  | some path => if path.isEmpty then s.packaged else path
  | none => s.packaged

/-- The bundled linter, if it is there. -/
def bundled (s : Session) (fs : FileSystem) :
    Except SystemError (Option Toolchain × List Log.Event) :=
  let path := s.bundledPath
  (fs.isFile (.ofText path)).map fun there =>
    if there then (some ⟨path, none, .bundled⟩, [.bundledFallback path])
    else (none, [.toolchainNotFound (Cause.bundledMissing path).toFault])

/-- Keep a discovery for this session and, in a file, for later ones. -/
def remember (s : Session) (fs : FileSystem) (executable directory : String) :
    Session × FileSystem × List Log.Event :=
  let s := { s with
    config := { s.config with
      executablePath := executable, manifestDirectory := some directory } }
  if !s.persists then (s, fs, [])
  else
    let path := RuntimeState.path (.ofText directory)
    match RuntimeState.write fs path ⟨executable, directory⟩ with
    | .ok fs => (s, fs, [.stateWritten path.text])
    | .error e => (s, fs, [.stateWriteFailed path.text e.message])

/-- Take over the end of a search: fall back on the bundled linter, remember a discovery,
and keep what was found. -/
def adopt (s : Session) (fs : FileSystem) (found : Option Toolchain) :
    Except SystemError (Session × FileSystem × List Log.Event × Option Toolchain) :=
  match found with
  | none => (s.bundled fs).map fun (t, events) =>
    ({ s with toolchain := t.or s.toolchain }, fs, events, t)
  | some t =>
    let (s, fs, events) := match t.origin, t.ruleDirectory with
      | .foreman, some directory => s.remember fs t.executable directory
      | _, _ => (s, fs, [])
    .ok ({ s with toolchain := some t }, fs, events, some t)

/-- Begin a search for the linter; one that is known is taken at once. -/
def startSearch (s : Session) : Toolchain.SearchStep :=
  match s.toolchain with
  | some t => ⟨[], .settled (some t)⟩
  | none => Toolchain.Search.start s.config.executablePath s.roots

/-- The directory in which the linter runs: the linter's own, or the configured one if that
is not set. -/
def workingDirectory (s : Session) (t : Toolchain) : Option String :=
  match t.ruleDirectory with
  | some d => if d.isEmpty then s.config.manifestDirectory else some d
  | none => s.config.manifestDirectory

def invocation (plan : PassPlan) (rules : Option String) : Invocation :=
  ⟨plan.executable, Command.ruleArgs rules, plan.limit⟩

/-- The effects at the beginning of a pass. -/
def startPass (c : Log.CycleContext) (plan : PassPlan) (rules : Option String) (source : String) :
    List Effect :=
  let i := invocation plan rules
  [.report ⟨some c, i.announce plan.cwd⟩,
    .spawn (Command.line i.executable i.ruleArgs source) plan.cwd]

/-- The effects of the end of a pass. -/
def endPass (c : Log.CycleContext) (done : Concluded) : List Effect :=
  let fate := match done.fate with
    | .left => []
    | .killed => [Effect.kill]
    | .killedAndAwaited => [.kill, .await]
  fate ++ reports (some c) done.events

/-- The pass without custom rules, with the linter that was found, or the end of a cycle
without one. -/
def enterBase (s : Session) (fs : FileSystem) (uri source : String) (generation : Nat)
    (found : Option Toolchain) : Turn Standing :=
  let context : Log.CycleContext := ⟨uri, generation⟩
  match found with
  | none => ⟨s, fs, reports (some context) [.skippedNoToolchain], .ended (.ok none)⟩
  | some t =>
    let plan : PassPlan := ⟨t.executable, s.workingDirectory t, s.config.timeout.map .real⟩
    ⟨s, fs, startPass context plan none source,
      .paused ⟨uri, source, generation, .basePass plan⟩⟩

/-- Go on after a step of the search. A linter that is known already is not taken over
again. -/
def afterSearch (s : Session) (fs : FileSystem) (uri source : String) (generation : Nat)
    (known : Bool) (step : Toolchain.SearchStep) : Turn Standing :=
  let context : Log.CycleContext := ⟨uri, generation⟩
  let before := reports (some context) step.events
  match step.search with
  | .settled found =>
    if known then
      let turn := s.enterBase fs uri source generation found
      { turn with effects := before ++ turn.effects }
    else match s.adopt fs found with
      | .error e => ⟨s, fs, before, .ended (.error (.system e))⟩
      | .ok (s, fs, events, found) =>
        let turn := s.enterBase fs uri source generation found
        { turn with effects := before ++ reports (some context) events ++ turn.effects }
  | .refused e => ⟨s, fs, before, .ended (.error (.system e))⟩
  | search => ⟨s, fs, before, .paused ⟨uri, source, generation, .searching search⟩⟩

/-- Begin a cycle for a document. -/
def beginCycle (s : Session) (fs : FileSystem) (uri source : String) (language : Option String) :
    Turn Standing :=
  if !s.isLintable language then
    ⟨s, fs, reports none [.skippedLanguage uri language], .ended (.ok none)⟩
  else
    let s := s.advance uri
    s.afterSearch fs uri source (s.generation uri) s.toolchain.isSome s.startSearch

/-- The last step: nothing for a cycle that is not the last thing begun for its document,
else the quick fixes are stored and the diagnostics are published. -/
def finish (s : Session) (fs : FileSystem) (canPublish : Bool) (c : Cycle)
    (violations : List Violation) (invocations : Nat) : Turn Standing :=
  let context : Log.CycleContext := ⟨c.uri, c.generation⟩
  if !s.isCurrent c.uri c.generation then
    ⟨s, fs, reports (some context) [.resultStale (s.generations.get? c.uri)], .ended (.ok none)⟩
  else match Violation.findings c.uri violations with
    | .error f => ⟨s, fs, [], .ended (.error (.coordinate f))⟩
    | .ok findings =>
      let s := { s with registry := s.registry.publish c.uri (Finding.actions findings) }
      let published := Effect.publish c.uri (Finding.diagnostics findings)
      if !canPublish then ⟨s, fs, [published], .ended (.error .transportClosed)⟩
      else
        let event := Log.Event.published (Finding.diagnostics findings).length
          (Finding.actions findings).length
        ⟨s, fs, published :: reports (some context) [event],
          .ended (.ok (some ⟨c.uri, c.generation, findings, invocations⟩))⟩

/-- Go on after the pass without custom rules: with the pass with custom rules if a rule
file is configured now, else to the end. -/
def afterBase (s : Session) (fs : FileSystem) (canPublish : Bool) (c : Cycle) (plan : PassPlan)
    (violations : List Violation) : Turn Standing :=
  let context : Log.CycleContext := ⟨c.uri, c.generation⟩
  if s.config.ruleConfigPath.isEmpty then s.finish fs canPublish c violations 1
  else match rootFor s.roots c.uri with
    | .error f => ⟨s, fs, [], .ended (.error f)⟩
    | .ok root =>
      let rules := RulePath.resolve s.config.ruleConfigPath (root.map FilePath.text)
      ⟨s, fs,
        reports (some context) [.customRules rules] ++ startPass context plan (some rules) c.source,
        .paused { c with stage := .rulesPass plan rules violations }⟩

/-- Go on with a cycle that got what it was waiting for. A reply of the wrong kind changes
nothing. -/
def resume (s : Session) (fs : FileSystem) (canPublish : Bool) (c : Cycle) (r : Reply) :
    Turn Standing :=
  let context : Log.CycleContext := ⟨c.uri, c.generation⟩
  match c.stage, r with
  | .searching search, .looked =>
    s.afterSearch fs c.uri c.source c.generation false (search.step fs s.home)
  | .basePass plan, .ended e =>
    let done := (invocation plan none).conclude e
    let before := endPass context done
    match done.result with
    | .error f => ⟨s, fs, before, .ended (.error f)⟩
    | .ok violations =>
      let turn := s.afterBase fs canPublish c plan violations
      { turn with effects := before ++ turn.effects }
  | .rulesPass plan rules base, .ended e =>
    let done := (invocation plan (some rules)).conclude e
    let before := endPass context done
    match done.result with
    | .error f => ⟨s, fs, before, .ended (.error f)⟩
    | .ok violations =>
      let turn := s.finish fs canPublish c (base ++ violations) 2
      { turn with effects := before ++ turn.effects }
  | _, _ => ⟨s, fs, [], .paused c⟩

/-- Close a document: cycles that were begun before count no more, and its quick fixes and
diagnostics go. -/
def closeDocument (s : Session) (fs : FileSystem) (canPublish : Bool) (uri : String) :
    Turn (Except Failure Unit) :=
  let s := s.advance uri
  let s := { s with registry := s.registry.clear uri }
  ⟨s, fs, [.publish uri []], if canPublish then .ok () else .error .transportClosed⟩

/-- Find the linter outside of every cycle, on files that do not change meanwhile. -/
def ensureToolchain (s : Session) (fs : FileSystem) :
    Turn (Except SystemError (Option Toolchain)) :=
  match s.toolchain with
  | some t => ⟨s, fs, [], .ok (some t)⟩
  | none =>
    let (found, events) := Toolchain.resolve fs s.home s.config.executablePath s.roots
    match found.bind (s.adopt fs) with
    | .error e => ⟨s, fs, reports none events, .error e⟩
    | .ok (s, fs, more, found) => ⟨s, fs, reports none (events ++ more), .ok found⟩

end Session
end LintBridge
