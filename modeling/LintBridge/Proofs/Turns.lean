import LintBridge.Session.Cycle
/-!
What one step of a cycle can do, said once. A step of a search changes at most the
configuration and the linter of a session; a step that ends a pass starts the next one,
fails, or comes to the last step of all. Only the last step writes the registry or hands
anything to publish. Every invariant of a session with several cycles is derived from
`Searched` and `Resumed`.
-/
namespace LintBridge

/-- A search that goes on: it has come to no end, neither to a linter nor to a refused look. -/
def Toolchain.Search.Open : Toolchain.Search → Prop
  | .manifests _ | .binary _ => True
  | .settled _ | .refused _ => False

/-- What a cycle waits for in a search is still to come. -/
def Stage.Open : Stage → Prop
  | .searching search => search.Open
  | _ => True

/-- The documents and diagnostics that effects hand to publish, in order. -/
def Effect.publications (es : List Effect) : List (String × List Diagnostic) :=
  es.filterMap fun e => match e with
    | .publish uri diagnostics => some (uri, diagnostics)
    | _ => none

/-- Does a process run an executable in a directory? -/
def Command.Runs (executable : String) (directory : Option String)
    (line : List String × Option String) : Prop :=
  line.1.head? = some executable ∧ line.2 = directory

/-- The command lines and working directories of the processes that effects start, in order. -/
def Effect.commands (es : List Effect) : List (List String × Option String) :=
  es.filterMap fun e => match e with
    | .spawn command cwd => some (command, cwd)
    | _ => none

namespace Effect

@[simp] theorem publications_nil : publications [] = [] := rfl
@[simp] theorem commands_nil : commands [] = [] := rfl

@[simp] theorem publications_append (es es' : List Effect) :
    publications (es ++ es') = publications es ++ publications es' := by
  simp [publications]

@[simp] theorem commands_append (es es' : List Effect) :
    commands (es ++ es') = commands es ++ commands es' := by
  simp [commands]

/-- Effects that neither publish nor start a process. -/
def Quiet (es : List Effect) : Prop := publications es = [] ∧ commands es = []

theorem Quiet.nil : Quiet [] := ⟨rfl, rfl⟩

theorem Quiet.append {es es' : List Effect} (h : Quiet es) (h' : Quiet es') :
    Quiet (es ++ es') := by
  simp [Quiet, h.1, h.2, h'.1, h'.2]

end Effect

open Effect (publications commands Quiet)

namespace Session

theorem quiet_reports (cycle : Option Log.CycleContext) (events : List Log.Event) :
    Quiet (reports cycle events) := by
  constructor <;> simp [publications, commands, reports, List.filterMap_map]

theorem quiet_endPass (c : Log.CycleContext) (done : Concluded) : Quiet (endPass c done) := by
  have reported := quiet_reports (some c) done.events
  unfold endPass
  cases done.fate with
  | left => exact Quiet.append ⟨rfl, rfl⟩ reported
  | killed => exact Quiet.append ⟨rfl, rfl⟩ reported
  | killedAndAwaited => exact Quiet.append ⟨rfl, rfl⟩ reported

@[simp] theorem publications_startPass (c : Log.CycleContext) (plan : PassPlan)
    (rules : Option String) (source : String) :
    publications (startPass c plan rules source) = [] := rfl

/-- The command line and working directory of a pass. -/
def command (plan : PassPlan) (rules : Option String) (source : String) :
    List String × Option String :=
  (Command.line plan.executable (Command.ruleArgs rules) source, plan.cwd)

@[simp] theorem commands_startPass (c : Log.CycleContext) (plan : PassPlan)
    (rules : Option String) (source : String) :
    commands (startPass c plan rules source) = [command plan rules source] := rfl

@[simp] theorem advance_config (s : Session) (uri : String) : (s.advance uri).config = s.config :=
  rfl
@[simp] theorem advance_roots (s : Session) (uri : String) : (s.advance uri).roots = s.roots := rfl
@[simp] theorem advance_home (s : Session) (uri : String) : (s.advance uri).home = s.home := rfl
@[simp] theorem advance_toolchain (s : Session) (uri : String) :
    (s.advance uri).toolchain = s.toolchain := rfl

/-- What a cycle keeps from a linter and the configuration at the start of its first pass. -/
def plan (s : Session) (t : Toolchain) : PassPlan :=
  ⟨t.executable, s.workingDirectory t, s.config.timeout.map .real⟩

/-- How a session takes over the linter with which a cycle begins its first pass. -/
inductive Taken (s : Session) : Toolchain → Session → Prop where
  | known {t : Toolchain} (h : s.toolchain = some t) : Taken s t s
  | explicit (h : s.config.executablePath ≠ "") :
    Taken s ⟨s.config.executablePath, none, .explicit⟩
      { s with toolchain := some ⟨s.config.executablePath, none, .explicit⟩ }
  | discovered (executable directory : String) (h : executable ≠ "") :
    Taken s ⟨executable, some directory, .foreman⟩
      { s with
        config := { s.config with
          executablePath := executable, manifestDirectory := some directory }
        toolchain := some ⟨executable, some directory, .foreman⟩ }
  | bundled :
    Taken s ⟨s.bundledPath, none, .bundled⟩
      { s with toolchain := some ⟨s.bundledPath, none, .bundled⟩ }

theorem Taken.toolchain {s s' : Session} {t : Toolchain} (h : Taken s t s') :
    s'.toolchain = some t := by
  cases h with
  | known h => exact h
  | explicit h => rfl
  | discovered executable directory h => rfl
  | bundled => rfl

/-- A linter that is taken over changes nothing but the configuration and the linter. -/
theorem Taken.kept {s s' : Session} {t : Toolchain} (h : Taken s t s') :
    s'.registry = s.registry ∧ s'.generations = s.generations ∧ s'.roots = s.roots := by
  cases h <;> exact ⟨rfl, rfl, rfl⟩

/-- What a step can do to a cycle that has not begun its first pass. -/
inductive Searched (s : Session) (uri source : String) (generation : Nat) :
    Turn Standing → Prop where
  | searching {fs : FileSystem} {es : List Effect} {search : Toolchain.Search}
    (quiet : Quiet es) (isOpen : search.Open) :
    Searched s uri source generation
      ⟨s, fs, es, .paused ⟨uri, source, generation, .searching search⟩⟩
  | noLinter {fs : FileSystem} {es : List Effect} (quiet : Quiet es) :
    Searched s uri source generation ⟨s, fs, es, .ended (.ok none)⟩
  | refused {fs : FileSystem} {es : List Effect} (e : SystemError) (quiet : Quiet es) :
    Searched s uri source generation ⟨s, fs, es, .ended (.error (.system e))⟩
  | base {s' : Session} {fs : FileSystem} {es : List Effect} {t : Toolchain}
    (quiet : Quiet es) (taken : Taken s t s') :
    Searched s uri source generation
      ⟨s', fs, es ++ startPass ⟨uri, generation⟩ (s'.plan t) none source,
        .paused ⟨uri, source, generation, .basePass (s'.plan t)⟩⟩

theorem Searched.kept {s : Session} {uri source : String} {generation : Nat}
    {turn : Turn Standing} (h : Searched s uri source generation turn) :
    turn.session.registry = s.registry ∧ turn.session.generations = s.generations ∧
      turn.session.roots = s.roots := by
  cases h with
  | searching quiet isOpen => exact ⟨rfl, rfl, rfl⟩
  | noLinter quiet => exact ⟨rfl, rfl, rfl⟩
  | refused e quiet => exact ⟨rfl, rfl, rfl⟩
  | base quiet taken => exact taken.kept

theorem Searched.publications {s : Session} {uri source : String} {generation : Nat}
    {turn : Turn Standing} (h : Searched s uri source generation turn) :
    publications turn.effects = [] := by
  cases h with
  | searching quiet isOpen => exact quiet.1
  | noLinter quiet => exact quiet.1
  | refused e quiet => exact quiet.1
  | base quiet taken => simp [quiet.1]

/-- A cycle that pauses is still the same one, and if it searches, its search goes on. -/
theorem Searched.paused {s : Session} {uri source : String} {generation : Nat}
    {turn : Turn Standing} (h : Searched s uri source generation turn) {c : Cycle}
    (hc : turn.value = .paused c) :
    c.uri = uri ∧ c.source = source ∧ c.generation = generation ∧ c.stage.Open := by
  cases h with
  | searching quiet isOpen =>
    cases hc
    exact ⟨rfl, rfl, rfl, isOpen⟩
  | noLinter quiet => cases hc
  | refused e quiet => cases hc
  | base quiet taken =>
    cases hc
    exact ⟨rfl, rfl, rfl, trivial⟩

theorem remember_session (s : Session) (fs : FileSystem) (executable directory : String) :
    (s.remember fs executable directory).1 = { s with
      config := { s.config with
        executablePath := executable, manifestDirectory := some directory } } := by
  unfold remember
  cases hp : s.persists with
  | false => simp
  | true =>
    simp only [Bool.not_true, Bool.false_eq_true, ↓reduceIte]
    split <;> rfl

/-- How a session takes over what a search has come to: the configured linter, a discovery,
or, if nothing was found, the bundled linter if it is there. -/
inductive Adopts (s : Session) (fs : FileSystem) :
    Option Toolchain → Toolchain → Session → Prop where
  | explicit (named : s.config.executablePath ≠ "") :
    Adopts s fs (some ⟨s.config.executablePath, none, .explicit⟩)
      ⟨s.config.executablePath, none, .explicit⟩
      { s with toolchain := some ⟨s.config.executablePath, none, .explicit⟩ }
  | discovered (executable directory : String) (named : executable ≠ "") :
    Adopts s fs (some ⟨executable, some directory, .foreman⟩)
      ⟨executable, some directory, .foreman⟩
      { s with
        config := { s.config with
          executablePath := executable, manifestDirectory := some directory }
        toolchain := some ⟨executable, some directory, .foreman⟩ }
  | bundled (there : fs.isFile (.ofText s.bundledPath) = .ok true) :
    Adopts s fs none ⟨s.bundledPath, none, .bundled⟩
      { s with toolchain := some ⟨s.bundledPath, none, .bundled⟩ }

theorem Adopts.taken {s s' : Session} {fs : FileSystem} {found : Option Toolchain} {t : Toolchain}
    (h : Adopts s fs found t s') : Taken s t s' := by
  cases h with
  | explicit named => exact .explicit named
  | discovered executable directory named => exact .discovered executable directory named
  | bundled there => exact .bundled

/-- What a step of a search does on files, by how far the search has come with it. -/
inductive Turned (s : Session) (fs : FileSystem) (uri source : String) (generation : Nat) :
    Toolchain.Search → Turn Standing → Prop where
  | searching {search : Toolchain.Search} {fs' : FileSystem} {es : List Effect}
    (quiet : Quiet es) (isOpen : search.Open) :
    Turned s fs uri source generation search
      ⟨s, fs', es, .paused ⟨uri, source, generation, .searching search⟩⟩
  | nothing {fs' : FileSystem} {es : List Effect} (quiet : Quiet es)
    (missing : fs.isFile (.ofText s.bundledPath) = .ok false) :
    Turned s fs uri source generation (.settled none) ⟨s, fs', es, .ended (.ok none)⟩
  | refused {search : Toolchain.Search} {fs' : FileSystem} {es : List Effect} {e : SystemError}
    (quiet : Quiet es) (look : search = .refused e ∨
      search = .settled none ∧ fs.isFile (.ofText s.bundledPath) = .error e) :
    Turned s fs uri source generation search ⟨s, fs', es, .ended (.error (.system e))⟩
  | found {found : Option Toolchain} {t : Toolchain} {s' : Session} {fs' : FileSystem}
    {es : List Effect} (quiet : Quiet es) (adopts : Adopts s fs found t s') :
    Turned s fs uri source generation (.settled found)
      ⟨s', fs', es ++ startPass ⟨uri, generation⟩ (s'.plan t) none source,
        .paused ⟨uri, source, generation, .basePass (s'.plan t)⟩⟩

theorem Turned.searched {s : Session} {fs : FileSystem} {uri source : String} {generation : Nat}
    {search : Toolchain.Search} {turn : Turn Standing}
    (h : Turned s fs uri source generation search turn) :
    Searched s uri source generation turn := by
  cases h with
  | searching quiet isOpen => exact .searching quiet isOpen
  | nothing quiet missing => exact .noLinter quiet
  | refused quiet look => exact .refused _ quiet
  | found quiet adopts => exact .base quiet adopts.taken

/-- Going on with a linter that a session has taken over. -/
theorem turned_enterBase {s s' : Session} {fs : FileSystem} {found : Option Toolchain}
    {t : Toolchain} (adopts : Adopts s fs found t s') (fs' : FileSystem) (uri source : String)
    (generation : Nat) {es : List Effect} (quiet : Quiet es) :
    Turned s fs uri source generation (.settled found)
      { s'.enterBase fs' uri source generation (some t) with
        effects := es ++ (s'.enterBase fs' uri source generation (some t)).effects } :=
  .found quiet adopts

/-- A search that found nothing falls back on the bundled linter. -/
theorem turned_nothing (s : Session) (fs : FileSystem) (uri source : String) (generation : Nat)
    (events : List Log.Event) :
    Turned s fs uri source generation (.settled none)
      (s.afterSearch fs uri source generation false ⟨events, .settled none⟩) := by
  let context : Log.CycleContext := ⟨uri, generation⟩
  have before := quiet_reports (some context) events
  cases h : fs.isFile (.ofText s.bundledPath) with
  | error e =>
    have stopped : Turned s fs uri source generation _ ⟨s, fs, _, .ended (.error (.system e))⟩ :=
      .refused before (.inr ⟨rfl, h⟩)
    simpa [afterSearch, adopt, bundled, h, Except.map] using stopped
  | ok there =>
    cases there with
    | true =>
      have fallback := quiet_reports (some context) [.bundledFallback s.bundledPath]
      have base := turned_enterBase (.bundled h) fs uri source generation (before.append fallback)
      simpa [afterSearch, adopt, bundled, h, Except.map] using base
    | false =>
      have missing := quiet_reports (some context)
        [.toolchainNotFound (Cause.bundledMissing s.bundledPath).toFault]
      have skipped := quiet_reports (some context) [.skippedNoToolchain]
      have none : Turned s fs uri source generation _ ⟨s, fs, _, .ended (.ok none)⟩ :=
        .nothing ((before.append missing).append skipped) h
      simpa [afterSearch, adopt, bundled, h, enterBase, Except.map] using none

/-- A discovery is kept in the configuration. -/
theorem turned_discovery (s : Session) (fs : FileSystem) (uri source : String) (generation : Nat)
    (events : List Log.Event) {executable directory : String} (named : executable ≠ "") :
    Turned s fs uri source generation
      (.settled (some ⟨executable, some directory, .foreman⟩))
      (s.afterSearch fs uri source generation false
        ⟨events, .settled (some ⟨executable, some directory, .foreman⟩)⟩) := by
  have quiet := (quiet_reports (some ⟨uri, generation⟩) events).append
    (quiet_reports (some ⟨uri, generation⟩) (s.remember fs executable directory).2.2)
  let t : Toolchain := ⟨executable, some directory, .foreman⟩
  have adopts : Adopts s fs (some t) t
      { (s.remember fs executable directory).1 with toolchain := some t } := by
    rw [remember_session]
    exact .discovered executable directory named
  exact turned_enterBase adopts (s.remember fs executable directory).2.1 uri source generation
    quiet

/-- A refused look ends a cycle. -/
theorem turned_refused (s : Session) (fs : FileSystem) (uri source : String) (generation : Nat)
    (events : List Log.Event) (e : SystemError) :
    Turned s fs uri source generation (.refused e)
      (s.afterSearch fs uri source generation false ⟨events, .refused e⟩) :=
  .refused (quiet_reports _ _) (.inl rfl)

/-- One look at the files during a search. -/
theorem turned_step (s : Session) (fs : FileSystem) (uri source : String) (generation : Nat)
    {search : Toolchain.Search} (isOpen : search.Open) :
    Turned s fs uri source generation (search.step fs s.home).search
      (s.afterSearch fs uri source generation false (search.step fs s.home)) := by
  cases search with
  | settled t => exact isOpen.elim
  | refused e => exact isOpen.elim
  | manifests roots =>
    simp only [Toolchain.Search.step]
    cases Toolchain.findManifest fs roots with
    | error e => exact turned_refused s fs uri source generation _ e
    | ok found =>
      cases found with
      | none => exact turned_nothing s fs uri source generation _
      | some manifest => exact .searching (quiet_reports _ _) trivial
  | binary manifest =>
    simp only [Toolchain.Search.step]
    cases fs.isFile (Toolchain.binaryPath s.home) with
    | error e => exact turned_refused s fs uri source generation _ e
    | ok there =>
      cases there with
      | true => exact turned_discovery s fs uri source generation _ (FilePath.text_ne_empty _)
      | false => exact turned_nothing s fs uri source generation _

/-- The beginning of a search; a configured linter is taken at once. -/
theorem turned_start (s : Session) (fs : FileSystem) (uri source : String) (generation : Nat) :
    Turned s fs uri source generation
      (Toolchain.Search.start s.config.executablePath s.roots).search
      (s.afterSearch fs uri source generation false
        (Toolchain.Search.start s.config.executablePath s.roots)) := by
  unfold Toolchain.Search.start
  by_cases named : s.config.executablePath = ""
  · simp only [named, ne_eq, not_true_eq_false, ↓reduceIte]
    split
    · exact turned_nothing s fs uri source generation _
    · exact .searching (quiet_reports _ _) trivial
  · simp only [ne_eq, named, not_false_eq_true, ↓reduceIte]
    have quiet := (quiet_reports (some ⟨uri, generation⟩) []).append
      (quiet_reports (some ⟨uri, generation⟩) [])
    exact turned_enterBase (.explicit named) fs uri source generation quiet

/-- The beginning of a cycle: a linter that is known is taken without a search. -/
theorem searched_start (s : Session) (fs : FileSystem) (uri source : String)
    (generation : Nat) :
    Searched s uri source generation
      (s.afterSearch fs uri source generation s.toolchain.isSome s.startSearch) := by
  cases ht : s.toolchain with
  | some t =>
    have known : Searched s uri source generation ⟨s, fs, [] ++ _, _⟩ := .base .nil (.known ht)
    simpa [startSearch, ht, afterSearch, reports, enterBase, plan] using known
  | none =>
    simp only [startSearch, ht, Option.isSome_none]
    exact (turned_start s fs uri source generation).searched

/-- A cycle of a language that is not linted ends at once; any other one is the newest of
its document and looks for the linter. -/
theorem searched_beginCycle (s : Session) (fs : FileSystem) (uri source : String)
    {language : Option String} (h : s.isLintable language = true) :
    Searched (s.advance uri) uri source (s.generation uri + 1)
      (s.beginCycle fs uri source language) := by
  have hg : (s.advance uri).generation uri = s.generation uri + 1 := by simp
  have hs := searched_start (s.advance uri) fs uri source (s.generation uri + 1)
  simpa [beginCycle, h, hg] using hs

/-- A cycle that searches goes on with a look. -/
theorem resume_looked {s : Session} {c : Cycle} {search : Toolchain.Search}
    (stage : c.stage = .searching search) (fs : FileSystem) (canPublish : Bool) :
    s.resume fs canPublish c .looked =
      s.afterSearch fs c.uri c.source c.generation false (search.step fs s.home) := by
  simp [resume, stage]

/-- The end of a process does not concern it. -/
theorem resume_searching {s : Session} {c : Cycle} {search : Toolchain.Search}
    (stage : c.stage = .searching search) (fs : FileSystem) (canPublish : Bool) (e : ProcessEnd) :
    s.resume fs canPublish c (.ended e) = ⟨s, fs, [], .paused c⟩ := by
  simp [resume, stage]

/-- The rule file of a document under the configuration and the folders, if there is one. -/
def rulesPath (s : Session) (uri : String) : Except Failure (Option String) :=
  if s.config.ruleConfigPath.isEmpty then .ok none
  else (rootFor s.roots uri).map fun root =>
    some (RulePath.resolve s.config.ruleConfigPath (root.map FilePath.text))

/-- The folder of a document can be told exactly if nothing is wrong with the host of its
address. -/
theorem exists_rootFor_iff (roots : List FilePath) {uri : String} :
    (∃ root, rootFor roots uri = .ok root) ↔
      Uri.hostFault? (Uri.parts uri).authority = none := by
  unfold rootFor Uri.checkedPath?
  cases Uri.hostFault? (Uri.parts uri).authority with
  | some fault => simp
  | none =>
    cases Uri.filePath? uri with
    | none => simp
    | some path =>
      dsimp only
      split <;> simp

/-- The rule file of a document can be told exactly if there is none or its folder can be told. -/
theorem exists_rulesPath_iff {s : Session} {uri : String} :
    (∃ rules, s.rulesPath uri = .ok rules) ↔
      s.config.ruleConfigPath = "" ∨ Uri.hostFault? (Uri.parts uri).authority = none := by
  unfold rulesPath
  rw [← exists_rootFor_iff s.roots]
  by_cases unset : s.config.ruleConfigPath = ""
  · simp [unset]
  · cases rootFor s.roots uri <;> simp [unset, Except.map]

/-- Whether a document has a rule file is told by the configuration alone. -/
theorem isSome_of_rulesPath {s : Session} {uri : String} {rules : Option String}
    (told : s.rulesPath uri = .ok rules) : rules.isSome = !s.config.ruleConfigPath.isEmpty := by
  unfold rulesPath at told
  split at told
  next unset =>
    cases told
    simp [unset]
  next set =>
    cases root : rootFor s.roots uri with
    | error f => simp [root, Except.map] at told
    | ok found =>
      simp only [root, Except.map, Except.ok.injEq] at told
      subst told
      simp [set]

/-- The violations of all passes of a cycle, if the reply ends the last one of them and
every pass gave a result. -/
def harvest (s : Session) (c : Cycle) (r : Reply) : Option (List Violation) :=
  match c.stage, r with
  | .basePass plan, .ended e =>
    match ((invocation plan none).conclude e).result, s.rulesPath c.uri with
    | .ok violations, .ok none => some violations
    | _, _ => none
  | .rulesPass plan rules base, .ended e =>
    match ((invocation plan (some rules)).conclude e).result with
    | .ok violations => some (base ++ violations)
    | .error _ => none
  | _, _ => none

/-- Nothing is harvested but from the end of a pass. -/
theorem harvest_eq_none {s : Session} {c : Cycle} {r : Reply}
    (base : ∀ plan e, c.stage = .basePass plan → r = .ended e → False)
    (rules : ∀ plan rules vs e, c.stage = .rulesPass plan rules vs → r = .ended e → False) :
    s.harvest c r = none := by
  unfold harvest
  split
  next plan e stage => exact (base plan e stage rfl).elim
  next plan path vs e stage => exact (rules plan path vs e stage rfl).elim
  next => rfl

/-- A cycle is harvested in its first pass when no rule file is configured, or in its
second one. -/
theorem stage_of_harvest {s : Session} {c : Cycle} {r : Reply} {vs : List Violation}
    (h : s.harvest c r = some vs) :
    (∃ plan, c.stage = .basePass plan ∧ s.rulesPath c.uri = .ok none) ∨
      ∃ plan rules base, c.stage = .rulesPass plan rules base := by
  unfold harvest at h
  split at h
  next plan e hs =>
    split at h
    next hr => exact .inl ⟨plan, hs, hr⟩
    next => cases h
  next plan rules base e hs => exact .inr ⟨plan, rules, base, hs⟩
  next => cases h

/-- What a step can do to a cycle that got a reply. -/
inductive Resumed (s : Session) (fs : FileSystem) (canPublish : Bool) (c : Cycle) (r : Reply) :
    Turn Standing → Prop where
  | idle (none : s.harvest c r = none) : Resumed s fs canPublish c r ⟨s, fs, [], .paused c⟩
  | search {search : Toolchain.Search} {turn : Turn Standing}
    (none : s.harvest c r = none) (stage : c.stage = .searching search)
    (searched : Searched s c.uri c.source c.generation turn) : Resumed s fs canPublish c r turn
  | failed {es : List Effect} {f : Failure} (none : s.harvest c r = none) (quiet : Quiet es) :
    Resumed s fs canPublish c r ⟨s, fs, es, .ended (.error f)⟩
  | rules {es : List Effect} {plan : PassPlan} {path : String} {vs : List Violation}
    (none : s.harvest c r = none) (quiet : Quiet es) (stage : c.stage = .basePass plan)
    (rules : s.rulesPath c.uri = .ok (some path)) :
    Resumed s fs canPublish c r
      ⟨s, fs, es ++ startPass ⟨c.uri, c.generation⟩ plan (some path) c.source,
        .paused { c with stage := .rulesPass plan path vs }⟩
  | last {es : List Effect} {vs : List Violation} (invocations : Nat)
    (harvest : s.harvest c r = some vs) (quiet : Quiet es) :
    Resumed s fs canPublish c r
      { s.finish fs canPublish c vs invocations with
        effects := es ++ (s.finish fs canPublish c vs invocations).effects }

/-- The last step of a cycle changes nothing of a session but the registry. -/
theorem finish_session (s : Session) (fs : FileSystem) (canPublish : Bool) (c : Cycle)
    (vs : List Violation) (n : Nat) :
    ∃ r, (s.finish fs canPublish c vs n).session = { s with registry := r } := by
  unfold finish
  split
  · exact ⟨s.registry, rfl⟩
  · split
    · exact ⟨s.registry, rfl⟩
    · split <;> exact ⟨_, rfl⟩

theorem finish_ended (s : Session) (fs : FileSystem) (canPublish : Bool) (c : Cycle)
    (vs : List Violation) (n : Nat) :
    ∃ result, (s.finish fs canPublish c vs n).value = .ended result := by
  unfold finish
  split
  · exact ⟨_, rfl⟩
  · split
    · exact ⟨_, rfl⟩
    · split <;> exact ⟨_, rfl⟩

/-- The last step of a cycle starts no process. -/
theorem commands_finish (s : Session) (fs : FileSystem) (canPublish : Bool) (c : Cycle)
    (vs : List Violation) (n : Nat) : commands (s.finish fs canPublish c vs n).effects = [] := by
  unfold finish
  split
  · exact (quiet_reports _ _).2
  · split
    · rfl
    · split <;> rfl

/-- No step of a suspended cycle moves a counter. -/
theorem Resumed.generations {s : Session} {fs : FileSystem} {canPublish : Bool} {c : Cycle}
    {r : Reply} {turn : Turn Standing} (h : Resumed s fs canPublish c r turn) :
    turn.session.generations = s.generations := by
  cases h with
  | idle none => rfl
  | search none stage searched => exact searched.kept.2.1
  | failed none quiet => rfl
  | rules none quiet stage rules => rfl
  | @last es vs n harvest quiet =>
    obtain ⟨r, hr⟩ := finish_session s fs canPublish c vs n
    simp [hr]

theorem Resumed.paused {s : Session} {fs : FileSystem} {canPublish : Bool} {c : Cycle}
    {r : Reply} {turn : Turn Standing} (h : Resumed s fs canPublish c r turn)
    (isOpen : c.stage.Open) {c' : Cycle} (hc : turn.value = .paused c') :
    c'.uri = c.uri ∧ c'.source = c.source ∧ c'.generation = c.generation ∧ c'.stage.Open := by
  cases h with
  | idle none => cases hc; exact ⟨rfl, rfl, rfl, isOpen⟩
  | search none stage searched => exact searched.paused hc
  | failed none quiet => cases hc
  | rules none quiet stage rules =>
    cases hc
    exact ⟨rfl, rfl, rfl, trivial⟩
  | @last es vs n harvest quiet =>
    obtain ⟨result, hr⟩ := finish_ended s fs canPublish c vs n
    rw [hr] at hc
    cases hc

/-- A step that harvests all findings of a cycle is its last one. -/
theorem Resumed.of_harvest {s : Session} {fs : FileSystem} {canPublish : Bool} {c : Cycle}
    {r : Reply} {turn : Turn Standing} (h : Resumed s fs canPublish c r turn)
    {vs : List Violation} (harvested : s.harvest c r = some vs) :
    ∃ es n, Quiet es ∧ turn = { s.finish fs canPublish c vs n with
      effects := es ++ (s.finish fs canPublish c vs n).effects } := by
  cases h with
  | idle none => simp [none] at harvested
  | search none stage searched => simp [none] at harvested
  | failed none quiet => simp [none] at harvested
  | rules none quiet stage rules => simp [none] at harvested
  | @last es vs' n harvest quiet =>
    obtain rfl : vs' = vs := by simpa [harvest] using harvested
    exact ⟨es, n, quiet, rfl⟩

/-- The end of the first pass, in terms of the rule file that is configured by then. -/
theorem afterBase_eq (s : Session) (fs : FileSystem) (canPublish : Bool) (c : Cycle)
    (plan : PassPlan) (vs : List Violation) :
    s.afterBase fs canPublish c plan vs = match s.rulesPath c.uri with
      | .error f => ⟨s, fs, [], .ended (.error f)⟩
      | .ok none => s.finish fs canPublish c vs 1
      | .ok (some rules) =>
        ⟨s, fs, reports (some ⟨c.uri, c.generation⟩) [.customRules rules] ++
          startPass ⟨c.uri, c.generation⟩ plan (some rules) c.source,
          .paused { c with stage := .rulesPass plan rules vs }⟩ := by
  unfold afterBase rulesPath
  cases he : s.config.ruleConfigPath.isEmpty with
  | true => rfl
  | false => cases hr : rootFor s.roots c.uri <;> rfl

/-- Every step of a suspended cycle. A search that waits is not over yet. -/
theorem resumed (s : Session) (fs : FileSystem) (canPublish : Bool) (c : Cycle) (r : Reply)
    (isOpen : c.stage.Open) : Resumed s fs canPublish c r (s.resume fs canPublish c r) := by
  unfold resume
  split
  next search hs =>
    have ho : search.Open := by rwa [hs] at isOpen
    exact .search (by simp [harvest, hs]) hs
      (turned_step s fs c.uri c.source c.generation ho).searched
  next plan e hs =>
    have quiet := quiet_endPass ⟨c.uri, c.generation⟩ ((invocation plan none).conclude e)
    dsimp only
    split
    next f hr => exact .failed (by simp [harvest, hs, hr]) quiet
    next vs hr =>
      rw [afterBase_eq]
      cases hp : s.rulesPath c.uri with
      | error f =>
        have h : Resumed s fs canPublish c (.ended e) ⟨s, fs, _, .ended (.error f)⟩ :=
          .failed (by simp [harvest, hs, hr, hp]) (quiet.append .nil)
        simpa using h
      | ok rules =>
        cases rules with
        | none => exact .last 1 (by simp [harvest, hs, hr, hp]) quiet
        | some path =>
          have before := quiet.append
            (quiet_reports (some ⟨c.uri, c.generation⟩) [.customRules path])
          have h : Resumed s fs canPublish c (.ended e)
              ⟨s, fs, _, .paused { c with stage := .rulesPass plan path vs }⟩ :=
            .rules (by simp [harvest, hs, hr, hp]) before hs hp
          simpa using h
  next plan rules base e hs =>
    have quiet := quiet_endPass ⟨c.uri, c.generation⟩ ((invocation plan (some rules)).conclude e)
    dsimp only
    split
    next f hr => exact .failed (by simp [harvest, hs, hr]) quiet
    next vs hr => exact .last 2 (by simp [harvest, hs, hr]) quiet
  next h₁ h₂ h₃ => exact .idle (harvest_eq_none h₂ h₃)

theorem finish_stale {s : Session} {c : Cycle} (h : s.isCurrent c.uri c.generation = false)
    (fs : FileSystem) (canPublish : Bool) (vs : List Violation) (n : Nat) :
    s.finish fs canPublish c vs n =
      ⟨s, fs, reports (some ⟨c.uri, c.generation⟩) [.resultStale (s.generations.get? c.uri)],
        .ended (.ok none)⟩ := by
  simp [finish, h]

theorem finish_fault {s : Session} {c : Cycle} (h : s.isCurrent c.uri c.generation = true)
    {vs : List Violation} {f : CoordinateFault} (hf : Violation.findings c.uri vs = .error f)
    (fs : FileSystem) (canPublish : Bool) (n : Nat) :
    s.finish fs canPublish c vs n = ⟨s, fs, [], .ended (.error (.coordinate f))⟩ := by
  simp [finish, h, hf]

/-- The newest cycle of a document stores its quick fixes and hands its diagnostics to
publish, whether or not that works. -/
theorem finish_current {s : Session} {c : Cycle} (h : s.isCurrent c.uri c.generation = true)
    {vs : List Violation} {findings : List Finding}
    (hf : Violation.findings c.uri vs = .ok findings)
    (fs : FileSystem) (canPublish : Bool) (n : Nat) :
    ∃ result, (∀ o, result = .ok o → o ≠ none) ∧
      (s.finish fs canPublish c vs n).value = .ended result ∧
      (s.finish fs canPublish c vs n).session =
        { s with registry := s.registry.publish c.uri (Finding.actions findings) } ∧
      publications (s.finish fs canPublish c vs n).effects =
        [(c.uri, Finding.diagnostics findings)] ∧
      commands (s.finish fs canPublish c vs n).effects = [] := by
  cases canPublish with
  | false =>
    refine ⟨.error .transportClosed, by simp, ?_⟩
    simp [finish, h, hf, publications, commands]
  | true =>
    refine ⟨.ok (some ⟨c.uri, c.generation, findings, n⟩), by simp, ?_⟩
    simp [finish, h, hf, publications, commands, reports]

end Session

end LintBridge
