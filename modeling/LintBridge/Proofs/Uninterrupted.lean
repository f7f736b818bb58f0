import Mathlib
import LintBridge.Session.Run
import LintBridge.Proofs.Checked
import LintBridge.Proofs.Verdict
import LintBridge.Proofs.Translation
/-!
A cycle that nothing interrupts, from its beginning to its first pass. Its search comes to what
finding the linter outside of cycles comes to (`Session.playFuel_start`), so the cycle goes on with
that linter or ends with the look that was refused.
-/
namespace LintBridge

open Effect (publications commands Quiet)

/-- A time limit that was checked is more than zero. -/
theorem Config.isNonPositive_of_checkTimeout {v : Value} {timeout : Option Binary64}
    (h : checkTimeout v = .ok timeout) {limit : Binary64} (hl : timeout = some limit) :
    limit.isNonPositive = false := by
  subst hl
  obtain ⟨checked, -, h⟩ := bind_eq_ok.mp h
  cases checked with
  | none => cases h
  | some x =>
    dsimp only at h
    split at h
    next => cases h
    next positive =>
      cases h
      simpa using positive

namespace ProcessEnd

/-- What a process prints is within the bounds of the reader and of the editor protocol: no
integer has too many digits, and no violation lies beyond the range of the protocol. -/
structure Bounded (e : ProcessEnd) : Prop where
  short : ∀ digits, ¬ e.Overlong digits
  fits : ∀ v ∈ e.violations, v.Fits

/-- What a process comes to that stops neither its run (`Invocation.returns_iff`) nor the
translation of its violations. -/
structure Ordinary (e : ProcessEnd) : Prop extends Bounded e where
  startable : e ≠ .refusedArgument

theorem Ordinary.result {e : ProcessEnd} (h : e.Ordinary) {i : Invocation}
    (timed : i.hasNoTime = false) : (i.conclude e).result = .ok e.violations := by
  obtain ⟨refused, -⟩ | ⟨digits, overlong, -⟩ | ⟨result, -⟩ := Invocation.conclude_cases i timed e
  · exact absurd refused h.startable
  · exact absurd overlong (h.short digits)
  · exact result

end ProcessEnd

namespace Toolchain.Search

/-- The linter at its usual place, to be run in the directory of a manifest. -/
def installed (fs : FileSystem) (home manifest : FilePath) :
    Except SystemError (Option Toolchain) :=
  (fs.isFile (binaryPath home)).map fun there =>
    if there then some ⟨(binaryPath home).text, some manifest.parent.text, .foreman⟩ else none

/-- What a search comes to on files that do not change. -/
def outcome (fs : FileSystem) (home : FilePath) :
    Search → Except SystemError (Option Toolchain)
  | .settled t => .ok t
  | .refused e => .error e
  | .manifests roots =>
    (findManifest fs roots).bind fun found => found.elim (.ok none) (installed fs home)
  | .binary manifest => installed fs home manifest

/-- The search that has come to an outcome. -/
def ofOutcome : Except SystemError (Option Toolchain) → Search
  | .ok t => .settled t
  | .error e => .refused e

theorem step_binary (fs : FileSystem) (home manifest : FilePath) :
    ∃ events, (binary manifest).step fs home =
      ⟨events, ofOutcome (installed fs home manifest)⟩ := by
  unfold installed
  simp only [step]
  cases fs.isFile (binaryPath home) with
  | error e => exact ⟨_, rfl⟩
  | ok there => cases there <;> exact ⟨_, rfl⟩

theorem step_manifests (fs : FileSystem) (home : FilePath) (roots : List FilePath) :
    ∃ events, (manifests roots).step fs home =
      ⟨events, match findManifest fs roots with
        | .error e => .refused e
        | .ok found => found.elim (.settled none) .binary⟩ := by
  simp only [step]
  cases findManifest fs roots with
  | error e => exact ⟨_, rfl⟩
  | ok found => cases found <;> exact ⟨_, rfl⟩

theorem step_ofOutcome (fs : FileSystem) (home : FilePath)
    (found : Except SystemError (Option Toolchain)) :
    (ofOutcome found).step fs home = ⟨[], ofOutcome found⟩ := by
  cases found <;> rfl

/-- A search that is not interrupted is over after two looks. -/
theorem step_step (fs : FileSystem) (home : FilePath) (search : Search) :
    ((search.step fs home).search.step fs home).search = ofOutcome (search.outcome fs home) := by
  cases search with
  | settled t => rfl
  | refused e => rfl
  | binary manifest =>
    obtain ⟨events, hs⟩ := step_binary fs home manifest
    rw [hs, step_ofOutcome]
    rfl
  | manifests roots =>
    obtain ⟨events, hs⟩ := step_manifests fs home roots
    rw [hs, outcome]
    cases findManifest fs roots with
    | error e => rfl
    | ok found =>
      cases found with
      | none => rfl
      | some manifest =>
        obtain ⟨events', hs'⟩ := step_binary fs home manifest
        exact congrArg SearchStep.search hs'

end Toolchain.Search

theorem Toolchain.resolve_found (fs : FileSystem) (home : FilePath) (explicit : String)
    (roots : List FilePath) :
    (resolve fs home explicit roots).1 = (Search.start explicit roots).search.outcome fs home := by
  unfold resolve
  simp only [Search.step_step]
  cases (Search.start explicit roots).search.outcome fs home <;> rfl

namespace Session

theorem remember_advance (s : Session) (uri : String) (fs : FileSystem)
    (executable directory : String) :
    (s.advance uri).remember fs executable directory =
      ((s.remember fs executable directory).1.advance uri,
        (s.remember fs executable directory).2) := by
  unfold remember
  cases hp : s.persists with
  | false => simp [advance, hp, generation]
  | true =>
    simp only [advance, hp, Bool.not_true, Bool.false_eq_true, ↓reduceIte, generation]
    split <;> rfl

theorem adopt_advance (s : Session) (uri : String) (fs : FileSystem) (found : Option Toolchain) :
    (s.advance uri).adopt fs found =
      (s.adopt fs found).map fun out => (out.1.advance uri, out.2) := by
  cases found with
  | none =>
    have path : (s.advance uri).bundledPath = s.bundledPath := rfl
    simp only [adopt, bundled, path]
    cases fs.isFile (.ofText s.bundledPath) <;> rfl
  | some t =>
    obtain ⟨executable, directory, origin⟩ := t
    cases origin <;> cases directory <;> simp [adopt, remember_advance, Except.map] <;> rfl

/-- Beginning a cycle makes no difference to the linter. -/
theorem ensureToolchain_advance (s : Session) (uri : String) (fs : FileSystem) :
    (s.advance uri).ensureToolchain fs =
      { s.ensureToolchain fs with session := (s.ensureToolchain fs).session.advance uri } := by
  unfold ensureToolchain
  cases ht : s.toolchain with
  | some t => simp [advance, ht]
  | none =>
    simp only [advance_config, advance_roots, advance_home, advance_toolchain, ht]
    cases (Toolchain.resolve fs s.home s.config.executablePath s.roots).1 with
    | error e => rfl
    | ok found =>
      simp only [Except.bind, adopt_advance]
      cases s.adopt fs found <;> rfl

/-- Taking over a linter changes nothing but the configuration's linter and the session's. -/
theorem adopt_kept {s s' : Session} {fs fs' : FileSystem} {found found' : Option Toolchain}
    {events : List Log.Event} (h : s.adopt fs found = .ok (s', fs', events, found')) :
    s'.registry = s.registry ∧ s'.generations = s.generations ∧ s'.roots = s.roots ∧
      s'.config.ruleConfigPath = s.config.ruleConfigPath ∧
      s'.config.timeout = s.config.timeout := by
  cases found with
  | none =>
    simp only [adopt] at h
    cases hb : s.bundled fs with
    | error e =>
      rw [hb] at h
      cases h
    | ok out =>
      rw [hb] at h
      cases h
      exact ⟨rfl, rfl, rfl, rfl, rfl⟩
  | some t =>
    obtain ⟨executable, directory, origin⟩ := t
    cases origin <;> cases directory <;>
      simp only [adopt, Except.ok.injEq, Prod.mk.injEq] at h <;> obtain ⟨rfl, -⟩ := h <;>
      simp [remember_session]

/-- Finding a linter changes nothing but the configuration's linter and the session's. -/
theorem ensureToolchain_kept (s : Session) (fs : FileSystem) :
    (s.ensureToolchain fs).session.registry = s.registry ∧
      (s.ensureToolchain fs).session.generations = s.generations ∧
      (s.ensureToolchain fs).session.roots = s.roots ∧
      (s.ensureToolchain fs).session.config.ruleConfigPath = s.config.ruleConfigPath ∧
      (s.ensureToolchain fs).session.config.timeout = s.config.timeout := by
  unfold ensureToolchain
  cases s.toolchain with
  | some t => simp
  | none =>
    dsimp only
    split
    · simp
    next s' fs' more found adopted =>
      obtain ⟨found₀, -, adopted⟩ := bind_eq_ok.mp adopted
      exact adopt_kept adopted

/-- The effects of a turn come after others. -/
def after (es : List Effect) (turn : Turn Standing) : Turn Standing :=
  { turn with effects := es ++ turn.effects }

theorem after_after (es es' : List Effect) (turn : Turn Standing) :
    after es (after es' turn) = after (es ++ es') turn := by
  simp [after]

/-- A cycle with what finding the linter has come to: its first pass, or its end. -/
def entered (found : Turn (Except SystemError (Option Toolchain))) (uri source : String)
    (generation : Nat) : Turn Standing :=
  match found.value with
  | .error e => ⟨found.session, found.files, [], .ended (.error (.system e))⟩
  | .ok t => found.session.enterBase found.files uri source generation t

theorem entered_ok {found : Turn (Except SystemError (Option Toolchain))} {t : Option Toolchain}
    (h : found.value = .ok t) (uri source : String) (generation : Nat) :
    entered found uri source generation =
      found.session.enterBase found.files uri source generation t := by
  simp [entered, h]

theorem entered_error {found : Turn (Except SystemError (Option Toolchain))} {e : SystemError}
    (h : found.value = .error e) (uri source : String) (generation : Nat) :
    entered found uri source generation =
      ⟨found.session, found.files, [], .ended (.error (.system e))⟩ := by
  simp [entered, h]

/-- A session that takes over what a search has come to. -/
def adopted (s : Session) (fs : FileSystem) (found : Except SystemError (Option Toolchain)) :
    Turn (Except SystemError (Option Toolchain)) :=
  match found.bind (s.adopt fs) with
  | .error e => ⟨s, fs, [], .error e⟩
  | .ok (s, fs, _, t) => ⟨s, fs, [], .ok t⟩

theorem entered_ensureToolchain {s : Session} (unknown : s.toolchain = none) (fs : FileSystem)
    (uri source : String) (generation : Nat) :
    entered (s.ensureToolchain fs) uri source generation =
      entered (s.adopted fs (Toolchain.resolve fs s.home s.config.executablePath s.roots).1)
        uri source generation := by
  unfold ensureToolchain adopted
  simp only [unknown]
  generalize
    (Toolchain.resolve fs s.home s.config.executablePath s.roots).1.bind (s.adopt fs) = taken
  cases taken <;> rfl

theorem playFuel_ended {turn : Turn Standing} {result : Except Failure (Option Outcome)}
    (h : turn.value = .ended result) (canPublish : Bool) (fuel : Nat) (ends : List ProcessEnd)
    (started : Nat) :
    playFuel canPublish none fuel turn ends started =
      ⟨turn.session, turn.files, turn.effects, .ended result⟩ := by
  cases fuel <;> simp [playFuel, h]

/-- A pass ends with the next one of the given ends, or with an empty batch if there is none. -/
theorem playFuel_next {turn : Turn Standing} {c : Cycle} (h : turn.value = .paused c)
    (stage : ∀ search, c.stage ≠ .searching search) (canPublish : Bool) (fuel : Nat)
    (ends : List ProcessEnd) (started : Nat) :
    playFuel canPublish none (fuel + 1) turn ends started =
      playFuel canPublish none fuel
        (after turn.effects
          (turn.session.resume turn.files canPublish c (.ended (ends.headD .usual)))) ends.tail
        (started + 1) := by
  have waits : c.awaitsProcess = true := by
    unfold Cycle.awaitsProcess
    split
    next search hs => exact absurd hs (stage search)
    next => rfl
  simp [playFuel, h, waits, after]

theorem playFuel_pass {turn : Turn Standing} {c : Cycle} (h : turn.value = .paused c)
    (stage : ∀ search, c.stage ≠ .searching search) (canPublish : Bool) (fuel : Nat)
    (e : ProcessEnd) (ends : List ProcessEnd) (started : Nat) :
    playFuel canPublish none (fuel + 1) turn (e :: ends) started =
      playFuel canPublish none fuel
        (after turn.effects (turn.session.resume turn.files canPublish c (.ended e))) ends
        (started + 1) := playFuel_next h stage canPublish fuel (e :: ends) started

section
variable (s : Session) (fs : FileSystem) (canPublish : Bool) (uri source : String)
  (generation : Nat) (ends : List ProcessEnd) (fuel : Nat)

theorem afterSearch_ofOutcome (events : List Log.Event)
    (found : Except SystemError (Option Toolchain)) {es : List Effect} (quiet : Quiet es) :
    ∃ es', Quiet es' ∧
      after es (s.afterSearch fs uri source generation false
          ⟨events, Toolchain.Search.ofOutcome found⟩) =
        after es' (entered (s.adopted fs found) uri source generation) := by
  have reported := quiet.append (quiet_reports (some ⟨uri, generation⟩) events)
  cases found with
  | error e =>
    exact ⟨_, reported, by simp [after, afterSearch, Toolchain.Search.ofOutcome, adopted, entered,
      Except.bind]⟩
  | ok t =>
    cases taken : s.adopt fs t with
    | error e =>
      exact ⟨_, reported, by simp [after, afterSearch, Toolchain.Search.ofOutcome, adopted,
        entered, Except.bind, taken]⟩
    | ok out =>
      refine ⟨_, reported.append (quiet_reports (some ⟨uri, generation⟩) out.2.2.1), ?_⟩
      simp [after, afterSearch, Toolchain.Search.ofOutcome, adopted, entered, Except.bind, taken]

/-- A search that waits goes on with a look at the files. -/
theorem playFuel_search (search : Toolchain.Search) (es : List Effect) :
    playFuel canPublish none (fuel + 1)
        ⟨s, fs, es, .paused ⟨uri, source, generation, .searching search⟩⟩ ends 0 =
      playFuel canPublish none fuel
        (after es (s.afterSearch fs uri source generation false (search.step fs s.home)))
        ends 0 := rfl

/-- A search that waits to look for the linter ends with its next look. -/
theorem playFuel_binary (manifest : FilePath) (events : List Log.Event) {es : List Effect}
    (quiet : Quiet es) :
    ∃ es', Quiet es' ∧
      playFuel canPublish none (fuel + 1)
          (after es (s.afterSearch fs uri source generation false ⟨events, .binary manifest⟩))
          ends 0 =
        playFuel canPublish none fuel
          (after es' (entered (s.adopted fs (Toolchain.Search.installed fs s.home manifest))
            uri source generation)) ends 0 := by
  have before := quiet.append (quiet_reports (some ⟨uri, generation⟩) events)
  obtain ⟨events', hs⟩ := Toolchain.Search.step_binary fs s.home manifest
  obtain ⟨es', quiet', he⟩ := afterSearch_ofOutcome s fs uri source generation events'
    (Toolchain.Search.installed fs s.home manifest) before
  have look : playFuel canPublish none (fuel + 1)
        (after es (s.afterSearch fs uri source generation false ⟨events, .binary manifest⟩))
        ends 0 = _ :=
    playFuel_search s fs canPublish uri source generation ends fuel (.binary manifest)
      (es ++ reports (some ⟨uri, generation⟩) events)
  exact ⟨es', quiet', by rw [look, hs, he]⟩

/-- A search that waits to look for manifests ends with its next two looks at most. -/
theorem playFuel_manifests (roots : List FilePath) (events : List Log.Event) {es : List Effect}
    (quiet : Quiet es) :
    ∃ es' more, Quiet es' ∧
      playFuel canPublish none (fuel + 2)
          (after es (s.afterSearch fs uri source generation false ⟨events, .manifests roots⟩))
          ends 0 =
        playFuel canPublish none (fuel + more)
          (after es' (entered (s.adopted fs (Toolchain.Search.outcome fs s.home (.manifests roots)))
            uri source generation)) ends 0 := by
  have before := quiet.append (quiet_reports (some ⟨uri, generation⟩) events)
  obtain ⟨events', hs⟩ := Toolchain.Search.step_manifests fs s.home roots
  have look : playFuel canPublish none (fuel + 2)
        (after es (s.afterSearch fs uri source generation false ⟨events, .manifests roots⟩))
        ends 0 = _ :=
    playFuel_search s fs canPublish uri source generation ends (fuel + 1) (.manifests roots)
      (es ++ reports (some ⟨uri, generation⟩) events)
  rw [look, hs, Toolchain.Search.outcome]
  have ended (found : Except SystemError (Option Toolchain)) : ∃ es' more, Quiet es' ∧
      playFuel canPublish none (fuel + 1) (after (es ++ reports (some ⟨uri, generation⟩) events)
          (s.afterSearch fs uri source generation false
            ⟨events', Toolchain.Search.ofOutcome found⟩)) ends 0 =
        playFuel canPublish none (fuel + more)
          (after es' (entered (s.adopted fs found) uri source generation)) ends 0 := by
    obtain ⟨es', quiet', he⟩ := afterSearch_ofOutcome s fs uri source generation
        events' found before
    exact ⟨es', 1, quiet', congrArg (playFuel canPublish none (fuel + 1) · ends 0) he⟩
  cases Toolchain.findManifest fs roots with
  | error e => exact ended (.error e)
  | ok found =>
    cases found with
    | none => exact ended (.ok none)
    | some manifest =>
      obtain ⟨es', quiet', he⟩ := playFuel_binary s fs canPublish uri source generation ends fuel
        manifest events' before
      exact ⟨es', 0, quiet', he⟩

/-- An uninterrupted search comes to its outcome, with fuel left. -/
theorem playFuel_outcome (step : Toolchain.SearchStep) :
    ∃ es more, Quiet es ∧
      playFuel canPublish none (fuel + 2)
          (s.afterSearch fs uri source generation false step) ends 0 =
        playFuel canPublish none (fuel + more)
          (after es (entered (s.adopted fs (step.search.outcome fs s.home)) uri source generation))
          ends 0 := by
  obtain ⟨events, search⟩ := step
  have ended (found : Except SystemError (Option Toolchain)) : ∃ es more, Quiet es ∧
      playFuel canPublish none (fuel + 2) (s.afterSearch fs uri source generation false
          ⟨events, Toolchain.Search.ofOutcome found⟩) ends 0 =
        playFuel canPublish none (fuel + more)
          (after es (entered (s.adopted fs found) uri source generation)) ends 0 := by
    obtain ⟨es, quiet, he⟩ := afterSearch_ofOutcome s fs uri source generation events found .nil
    exact ⟨es, 2, quiet, congrArg (playFuel canPublish none (fuel + 2) · ends 0) he⟩
  cases search with
  | settled found => exact ended (.ok found)
  | refused e => exact ended (.error e)
  | binary manifest =>
    obtain ⟨es, quiet, he⟩ :=
      playFuel_binary s fs canPublish uri source generation ends (fuel + 1) manifest events .nil
    exact ⟨es, 1, quiet, he⟩
  | manifests roots =>
    exact playFuel_manifests s fs canPublish uri source generation ends fuel roots events .nil

/-- An uninterrupted cycle comes to its first pass with the linter that is found outside of
cycles, or ends with the look that was refused. -/
theorem playFuel_start :
    ∃ es more, Quiet es ∧
      playFuel canPublish none (fuel + 2)
          (s.afterSearch fs uri source generation s.toolchain.isSome s.startSearch) ends 0 =
        playFuel canPublish none (fuel + more)
          (after es (entered (s.ensureToolchain fs) uri source generation)) ends 0 := by
  unfold startSearch
  cases ht : s.toolchain with
  | some t =>
    refine ⟨[], 2, .nil, ?_⟩
    simp only [ensureToolchain, ht]
    rfl
  | none =>
    obtain ⟨es, more, quiet, he⟩ := playFuel_outcome s fs canPublish uri source generation ends
      fuel (Toolchain.Search.start s.config.executablePath s.roots)
    rw [← Toolchain.resolve_found] at he
    rw [entered_ensureToolchain ht]
    exact ⟨es, more, quiet, he⟩

end

theorem resume_basePass {s : Session} {c : Cycle} {plan : PassPlan} {e : ProcessEnd}
    {vs : List Violation} (stage : c.stage = .basePass plan)
    (result : ((invocation plan none).conclude e).result = .ok vs) (fs : FileSystem)
    (canPublish : Bool) :
    s.resume fs canPublish c (.ended e) =
      after (endPass ⟨c.uri, c.generation⟩ ((invocation plan none).conclude e))
        (s.afterBase fs canPublish c plan vs) := by
  simp [resume, stage, result, after]

theorem resume_rulesPass {s : Session} {c : Cycle} {plan : PassPlan} {path : String}
    {base vs : List Violation} {e : ProcessEnd} (stage : c.stage = .rulesPass plan path base)
    (result : ((invocation plan (some path)).conclude e).result = .ok vs) (fs : FileSystem)
    (canPublish : Bool) :
    s.resume fs canPublish c (.ended e) =
      after (endPass ⟨c.uri, c.generation⟩ ((invocation plan (some path)).conclude e))
        (s.finish fs canPublish c (base ++ vs) 2) := by
  simp [resume, stage, result, after]

/-- The violations of the passes of a cycle, whose second one is there with a rule file. -/
def harvested (rules : Option String) (e₁ e₂ : ProcessEnd) : List Violation :=
  e₁.violations ++ rules.elim [] fun _ => e₂.violations

theorem finish_value {s : Session} {c : Cycle} (h : s.isCurrent c.uri c.generation = true)
    {vs : List Violation} {findings : List Finding}
    (hf : Violation.findings c.uri vs = .ok findings) (fs : FileSystem) (canPublish : Bool)
    (n : Nat) :
    (s.finish fs canPublish c vs n).value = .ended (if canPublish then
      .ok (some ⟨c.uri, c.generation, findings, n⟩) else .error .transportClosed) := by
  cases canPublish <;> simp [finish, h, hf]

/-- A time limit that is set is more than zero. -/
def Timed (s : Session) : Prop :=
  ∀ limit, s.config.timeout = some limit → limit.isNonPositive = false

theorem Timed.of_timeout {s s' : Session} (h : s.Timed)
    (same : s'.config.timeout = s.config.timeout) :
    s'.Timed := fun limit hl => h limit (same.symm.trans hl)

/-- A configuration that was checked has no other time limit. -/
theorem timed_of_checkLint {v : Value} {config : Config.LintConfig}
    (h : Config.checkLint v = .ok config) {s : Session} (hs : s.config = config) : s.Timed := by
  unfold Config.checkLint at h
  obtain ⟨es, -, h⟩ := bind_eq_ok.mp h
  obtain ⟨executablePath, -, h⟩ := bind_eq_ok.mp h
  obtain ⟨ruleConfigPath, -, h⟩ := bind_eq_ok.mp h
  obtain ⟨manifestDirectory, -, h⟩ := bind_eq_ok.mp h
  obtain ⟨bundledExecutable, -, h⟩ := bind_eq_ok.mp h
  obtain ⟨languages, -, h⟩ := bind_eq_ok.mp h
  obtain ⟨timeout, ht, h⟩ := bind_eq_ok.mp h
  cases h
  intro limit hl
  rw [hs] at hl
  unfold Schema.defaulted at ht
  split at ht
  next given => exact Config.isNonPositive_of_checkTimeout (inside_eq_ok ht) hl
  next =>
    cases ht
    cases hl

theorem Timed.hasNoTime {s : Session} (h : s.Timed) (t : Toolchain) (rules : Option String) :
    (invocation (s.plan t) rules).hasNoTime = false := by
  unfold Invocation.hasNoTime invocation plan
  cases ht : s.config.timeout with
  | none => rfl
  | some limit => simpa using h limit ht

/-- An uninterrupted cycle of a document that is linted goes on from what finding the linter
outside of cycles comes to. -/
theorem lintDocument_entered {s : Session} {language : Option String}
    (linted : s.isLintable language = true) (fs : FileSystem) (canPublish : Bool)
    (uri source : String) (ends : List ProcessEnd) :
    ∃ es more, Quiet es ∧
      s.lintDocument fs canPublish none uri source language ends =
        playFuel canPublish none (more + 3)
          (after es (entered ((s.advance uri).ensureToolchain fs) uri source
            (s.generation uri + 1))) ends 0 := by
  have begun : s.beginCycle fs uri source language = (s.advance uri).afterSearch fs uri source
      (s.generation uri + 1) (s.advance uri).toolchain.isSome (s.advance uri).startSearch := by
    simp [beginCycle, linted]
  obtain ⟨es, more, quiet, searched⟩ := playFuel_start (s.advance uri) fs canPublish uri source
    (s.generation uri + 1) ends 3
  rw [← begun, Nat.add_comm 3 more] at searched
  exact ⟨es, more, quiet, searched⟩

/-- A cycle that nothing interrupts comes to its first pass if there is a linter. -/
theorem lintDocument_basePass {s : Session} {language : Option String}
    (linted : s.isLintable language = true) {fs : FileSystem} {t : Toolchain}
    (linter : (s.ensureToolchain fs).value = .ok (some t)) (canPublish : Bool)
    (uri source : String) (ends : List ProcessEnd) :
    let ready := (s.ensureToolchain fs).session
    ∃ es more, Quiet es ∧
      s.lintDocument fs canPublish none uri source language ends =
        playFuel canPublish none (more + 3)
          ⟨ready.advance uri, (s.ensureToolchain fs).files,
            es ++ startPass ⟨uri, s.generation uri + 1⟩ (ready.plan t) none source,
            .paused ⟨uri, source, s.generation uri + 1, .basePass (ready.plan t)⟩⟩ ends 0 := by
  intro ready
  obtain ⟨es, more, quiet, searched⟩ :=
    lintDocument_entered linted fs canPublish uri source ends
  have known : ((s.advance uri).ensureToolchain fs).value = .ok (some t) := by
    rw [ensureToolchain_advance]
    exact linter
  rw [entered_ok known, ensureToolchain_advance] at searched
  exact ⟨es, more, quiet, searched⟩

/-- A process that exits with an empty batch. -/
def emptyBatch : ProcessEnd := .exited (some 0) [91, 93] []

theorem ordinary_emptyBatch : emptyBatch.Ordinary := by
  refine ⟨⟨?_, ?_⟩, by simp [emptyBatch]⟩
  · rintro digits ⟨stdout, stderr, he, overlong⟩
    cases he
    have decoded : Json.decode (Text.Utf8.decodeLenient [91, 93]) = .ok (.list []) := by cbv
    unfold Batch.Overlong at overlong
    rw [decoded] at overlong
    cases overlong
  · have none : emptyBatch.violations = [] := by cbv
    simp [none]

end Session
end LintBridge
