import LintBridge.Proofs.Uninterrupted
/-!
The upshot of a cycle that nothing interrupts, whatever its processes come to. A pass that gives
no result ends the cycle, and so does a rule file that cannot be told or a coordinate that the
editor protocol has no room for; every other cycle publishes (`Session.upshot_isOk_iff`). Which
processes are started depends on the end of the first one alone (`Session.commandLines`). A pass
that fails costs its own violations and nothing else, unless a NUL or the address of the document
keeps the cycle from its passes (`Session.publishes_both_passes`).
-/
namespace LintBridge

open Effect (publications commands Quiet)

namespace Effect

theorem length_commands (es : List Effect) : (commands es).length = es.countP isSpawn := by
  induction es with
  | nil => rfl
  | cons e es ih =>
    unfold commands at ih ⊢
    cases e <;> simp [isSpawn, List.countP_cons, ih]

end Effect

namespace Session

variable {s : Session} {plan : PassPlan} {uri source : String} {e₁ e₂ : ProcessEnd}
  {canPublish : Bool}

/-- What a pass gives. -/
def passResult (plan : PassPlan) (rules : Option String) (e : ProcessEnd) :
    Except Failure (List Violation) :=
  ((invocation plan rules).conclude e).result

/-- The rule file of the second pass of a cycle, if the cycle comes to one. -/
def secondPass (s : Session) (plan : PassPlan) (uri : String) (e : ProcessEnd) : Option String :=
  match passResult plan none e, s.rulesPath uri with
  | .ok _, .ok rules => rules
  | _, _ => none

/-- The processes of a cycle, by the end of the first one. -/
def commandLines (s : Session) (plan : PassPlan) (uri source : String) (e : ProcessEnd) :
    List (List String × Option String) :=
  command plan none source ::
    (s.secondPass plan uri e).toList.map fun path => command plan (some path) source

/-- The violations of all passes of a cycle, or what ends it before its last step. -/
def gathered (s : Session) (plan : PassPlan) (uri : String) (e₁ e₂ : ProcessEnd) :
    Except Failure (List Violation) := do
  let base ← passResult plan none e₁
  match ← s.rulesPath uri with
  | none => return base
  | some path => return base ++ (← passResult plan (some path) e₂)

/-- What a cycle publishes, or what ends it. -/
def upshot (s : Session) (plan : PassPlan) (uri : String) (e₁ e₂ : ProcessEnd) :
    Except Failure (List Finding) := do
  let violations ← s.gathered plan uri e₁ e₂
  (Violation.findings uri violations).mapError .coordinate

/-- What a cycle returns that publishes over a connection, or what ends it. -/
def handedOver (canPublish : Bool) (outcome : Outcome) : Except Failure (Option Outcome) :=
  if canPublish then .ok (some outcome) else .error .transportClosed

/-- A session with the quick fixes of what a cycle publishes. -/
def storing (s : Session) (uri : String) : Except Failure (List Finding) → Session
  | .ok findings => { s with registry := s.registry.publish uri (Finding.actions findings) }
  | .error _ => s

/-- How a cycle is over that a session has taken to its first pass. -/
structure Concludes (s : Session) (fs : FileSystem) (canPublish : Bool) (plan : PassPlan)
    (uri source : String) (generation : Nat) (e₁ e₂ : ProcessEnd) (turn : Turn Played) : Prop where
  session : turn.session = s.storing uri (s.upshot plan uri e₁ e₂)
  files : turn.files = fs
  commands : commands turn.effects = s.commandLines plan uri source e₁
  publications : publications turn.effects = (s.upshot plan uri e₁ e₂).toOption.toList.map
    fun findings => (uri, Finding.diagnostics findings)
  value : turn.value = .ended ((s.upshot plan uri e₁ e₂).bind fun findings =>
    handedOver canPublish ⟨uri, generation, findings, (s.commandLines plan uri source e₁).length⟩)

/-- The last step of the newest cycle of a document. -/
theorem finish_upshot {c : Cycle} (current : s.isCurrent c.uri c.generation = true)
    (fs : FileSystem) (canPublish : Bool) (vs : List Violation) (n : Nat) :
    let found := (Violation.findings c.uri vs).mapError Failure.coordinate
    let turn := s.finish fs canPublish c vs n
    turn.session = s.storing c.uri found ∧ turn.files = fs ∧
      publications turn.effects = (found.toOption.toList.map
        fun findings => (c.uri, Finding.diagnostics findings)) ∧
      turn.value = .ended (found.bind fun findings =>
        handedOver canPublish ⟨c.uri, c.generation, findings, n⟩) := by
  intro found turn
  cases translated : Violation.findings c.uri vs with
  | error f =>
    have fault : turn = _ := finish_fault current translated fs canPublish n
    rw [fault]
    simp [found, translated, storing, Except.toOption, Except.bind]
  | ok findings =>
    have handed := finish_current current translated fs canPublish n
    have ended := finish_value current translated fs canPublish n
    obtain ⟨-, -, -, stored, published, -⟩ := handed
    have kept : turn.files = fs := by
      cases canPublish <;> simp [turn, finish, current, translated]
    have found_eq : found = .ok findings := by simp [found, translated]
    exact ⟨by rw [found_eq]; exact stored, kept, by rw [found_eq]; exact published,
      by rw [found_eq]; exact ended⟩

variable (canPublish) in
/-- A cycle that has come to its last step is over with the translation of what it gathered. -/
theorem concludes_finish {c : Cycle} (fs : FileSystem) {generation : Nat} (hu : c.uri = uri)
    (hg : c.generation = generation) (current : s.isCurrent uri generation = true)
    {vs : List Violation} (gathers : s.gathered plan uri e₁ e₂ = .ok vs) {es : List Effect}
    (silent : publications es = []) (lines : commands es = s.commandLines plan uri source e₁)
    (fuel : Nat) (ends : List ProcessEnd) (started : Nat) :
    s.Concludes fs canPublish plan uri source generation e₁ e₂
      (playFuel canPublish none fuel
        (after es (s.finish fs canPublish c vs (s.commandLines plan uri source e₁).length)) ends
        started) := by
  subst hu hg
  have upshot : s.upshot plan c.uri e₁ e₂ =
      (Violation.findings c.uri vs).mapError .coordinate := by
    simp [upshot, gathers, Bind.bind, Except.bind]
  obtain ⟨stored, kept, published, ended⟩ := finish_upshot current fs canPublish vs
    (s.commandLines plan c.uri source e₁).length
  have idle := commands_finish s fs canPublish c vs (s.commandLines plan c.uri source e₁).length
  rw [← upshot] at stored published ended
  have complete : (after es (s.finish fs canPublish c vs
      (s.commandLines plan c.uri source e₁).length)).value = .ended _ := ended
  rw [playFuel_ended complete]
  exact ⟨stored, kept, by simp [after, lines, idle], by simp [after, silent, published], rfl⟩

/-- A cycle that a pass or the rule file ends before its last step. -/
theorem concludes_failed (fs : FileSystem) {generation : Nat} {f : Failure}
    (gathers : s.gathered plan uri e₁ e₂ = .error f) {turn : Turn Standing}
    (session : turn.session = s) (files : turn.files = fs) (value : turn.value = .ended (.error f))
    (silent : publications turn.effects = [])
    (lines : commands turn.effects = s.commandLines plan uri source e₁)
    (fuel : Nat) (ends : List ProcessEnd) (started : Nat) :
    s.Concludes fs canPublish plan uri source generation e₁ e₂
      (playFuel canPublish none fuel turn ends started) := by
  have upshot : s.upshot plan uri e₁ e₂ = .error f := by
    simp [upshot, gathers, Bind.bind, Except.bind]
  rw [playFuel_ended value]
  refine ⟨?_, files, lines, ?_, ?_⟩
  · rw [upshot]
    exact session
  · rw [upshot]
    exact silent
  · rw [upshot]
    rfl

/-- The second pass ends a cycle, with its last step or with a failure. -/
theorem concludes_rulesPass {path : String} {base : List Violation} (fs : FileSystem)
    {generation : Nat} (current : s.isCurrent uri generation = true)
    (first : passResult plan none e₁ = .ok base) (readable : s.rulesPath uri = .ok (some path))
    {es : List Effect} (silent : publications es = [])
    (lines : commands es = s.commandLines plan uri source e₁) (fuel : Nat)
    (ends : List ProcessEnd) (next : ends.headD .usual = e₂) (started : Nat) :
    s.Concludes fs canPublish plan uri source generation e₁ e₂
      (playFuel canPublish none (fuel + 1)
        ⟨s, fs, es, .paused ⟨uri, source, generation, .rulesPass plan path base⟩⟩ ends
        started) := by
  have quiet := quiet_endPass ⟨uri, generation⟩ ((invocation plan (some path)).conclude e₂)
  have both : (s.commandLines plan uri source e₁).length = 2 := by
    simp [commandLines, secondPass, first, readable]
  rw [playFuel_next rfl (by simp), next]
  cases result : passResult plan (some path) e₂ with
  | error f =>
    have gathers : s.gathered plan uri e₁ e₂ = .error f := by
      simp [gathered, first, readable, result, Bind.bind, Except.bind]
    unfold passResult at result
    refine concludes_failed fs gathers ?_ ?_ ?_ ?_ ?_ fuel ends.tail (started + 1) <;>
      simp [after, resume, result, silent, lines, quiet.1, quiet.2]
  | ok vs =>
    have gathers : s.gathered plan uri e₁ e₂ = .ok (base ++ vs) := by
      simp [gathered, first, readable, result, Bind.bind, Except.bind, pure, Except.pure]
    rw [resume_rulesPass rfl result, after_after, ← both]
    exact concludes_finish canPublish
      (c := ⟨uri, source, generation, .rulesPass plan path base⟩) fs rfl rfl
      current gathers (by simp [silent, quiet.1]) (by simp [lines, quiet.2]) fuel ends.tail
      (started + 1)

/-- From its first pass on a cycle concludes with the ends that its processes come to. -/
theorem concludes_basePass (fs : FileSystem) {generation : Nat}
    (current : s.isCurrent uri generation = true) {es : List Effect}
    (silent : publications es = []) (line : commands es = [command plan none source]) (fuel : Nat)
    (ends : List ProcessEnd) :
    s.Concludes fs canPublish plan uri source generation (ends.headD .usual)
      (ends.tail.headD .usual)
      (playFuel canPublish none (fuel + 2)
        ⟨s, fs, es, .paused ⟨uri, source, generation, .basePass plan⟩⟩ ends 0) := by
  generalize h₁ : ends.headD .usual = e₁
  generalize h₂ : ends.tail.headD .usual = e₂
  have quiet := quiet_endPass ⟨uri, generation⟩ ((invocation plan none).conclude e₁)
  rw [playFuel_next rfl (by simp), h₁]
  cases first : passResult plan none e₁ with
  | error f =>
    have gathers : s.gathered plan uri e₁ e₂ = .error f := by
      simp [gathered, first, Bind.bind, Except.bind]
    have single : s.commandLines plan uri source e₁ = [command plan none source] := by
      simp [commandLines, secondPass, first]
    unfold passResult at first
    refine concludes_failed fs gathers ?_ ?_ ?_ ?_ ?_ (fuel + 1) ends.tail 1 <;>
      simp [after, resume, first, silent, line, single, quiet.1, quiet.2]
  | ok base =>
    rw [resume_basePass rfl first, afterBase_eq, after_after]
    cases readable : s.rulesPath uri with
    | error f =>
      have gathers : s.gathered plan uri e₁ e₂ = .error f := by
        simp [gathered, first, readable, Bind.bind, Except.bind]
      have single : s.commandLines plan uri source e₁ = [command plan none source] := by
        simp [commandLines, secondPass, first, readable]
      refine concludes_failed fs gathers ?_ ?_ ?_ ?_ ?_ (fuel + 1) ends.tail 1 <;>
        simp [after, silent, line, single, quiet.1, quiet.2]
    | ok rules =>
      cases rules with
      | none =>
        have gathers : s.gathered plan uri e₁ e₂ = .ok base := by
          simp [gathered, first, readable, Bind.bind, Except.bind, pure, Except.pure]
        have single : s.commandLines plan uri source e₁ = [command plan none source] := by
          simp [commandLines, secondPass, first, readable]
        have lines : commands (es ++ endPass ⟨uri, generation⟩
            ((invocation plan none).conclude e₁)) = s.commandLines plan uri source e₁ := by
          simp [line, single, quiet.2]
        have finished := concludes_finish canPublish
          (c := ⟨uri, source, generation, .basePass plan⟩) fs rfl rfl current gathers
          (by simp [silent, quiet.1]) lines (fuel + 1) ends.tail 1
        rwa [single] at finished
      | some path =>
        have announced := quiet_reports (some ⟨uri, generation⟩) [.customRules path]
        have both : s.commandLines plan uri source e₁ =
            [command plan none source, command plan (some path) source] := by
          simp [commandLines, secondPass, first, readable]
        exact concludes_rulesPass fs current first readable
          (by simp [silent, quiet.1, announced.1])
          (by simp [line, both, quiet.2, announced.2]) fuel ends.tail h₂ 1

/-- A cycle of a language that is not linted does nothing but report. -/
theorem lintDocument_skipped {language : Option String} (skipped : s.isLintable language = false)
    (fs : FileSystem) (uri source : String) (ends : List ProcessEnd) :
    ∃ es, Quiet es ∧ s.lintDocument fs canPublish none uri source language ends =
      ⟨s, fs, es, .ended (.ok none)⟩ := by
  refine ⟨_, quiet_reports none [.skippedLanguage uri language], ?_⟩
  have complete : s.beginCycle fs uri source language =
      ⟨s, fs, reports none [.skippedLanguage uri language], .ended (.ok none)⟩ := by
    simp [beginCycle, skipped]
  rw [lintDocument, complete, playFuel_ended rfl]

/-- A cycle without a linter is over with its search. -/
theorem lintDocument_noLinter {language : Option String} (linted : s.isLintable language = true)
    {fs : FileSystem} (missing : (s.ensureToolchain fs).value = .ok none) (uri source : String)
    (ends : List ProcessEnd) :
    ∃ es, Quiet es ∧ s.lintDocument fs canPublish none uri source language ends =
      ⟨(s.ensureToolchain fs).session.advance uri, (s.ensureToolchain fs).files, es,
        .ended (.ok none)⟩ := by
  have none : ((s.advance uri).ensureToolchain fs).value = .ok none := by
    rw [ensureToolchain_advance]
    exact missing
  obtain ⟨es, more, quiet, searched⟩ :=
    lintDocument_entered linted fs canPublish uri source ends
  rw [entered_ok none, ensureToolchain_advance] at searched
  refine ⟨_, quiet.append (quiet_reports (some ⟨uri, s.generation uri + 1⟩) [.skippedNoToolchain]),
    ?_⟩
  exact searched.trans (playFuel_ended rfl canPublish (more + 3) ends 0)

/-- A cycle ends with the look at a file that its search is refused. -/
theorem lintDocument_refused {language : Option String} (linted : s.isLintable language = true)
    {fs : FileSystem} {e : SystemError} (refused : (s.ensureToolchain fs).value = .error e)
    (uri source : String) (ends : List ProcessEnd) :
    ∃ es, Quiet es ∧ s.lintDocument fs canPublish none uri source language ends =
      ⟨(s.ensureToolchain fs).session.advance uri, (s.ensureToolchain fs).files, es,
        .ended (.error (.system e))⟩ := by
  have failed : ((s.advance uri).ensureToolchain fs).value = .error e := by
    rw [ensureToolchain_advance]
    exact refused
  obtain ⟨es, more, quiet, searched⟩ :=
    lintDocument_entered linted fs canPublish uri source ends
  rw [entered_error failed, ensureToolchain_advance] at searched
  exact ⟨es ++ [], quiet.append .nil,
    searched.trans (playFuel_ended rfl canPublish (more + 3) ends 0)⟩

/-- A cycle with a linter concludes as its processes let it. -/
theorem concludes_lintDocument {language : Option String} (linted : s.isLintable language = true)
    {fs : FileSystem} {t : Toolchain} (linter : (s.ensureToolchain fs).value = .ok (some t))
    (canPublish : Bool) (uri source : String) (ends : List ProcessEnd) :
    let ready := (s.ensureToolchain fs).session
    (ready.advance uri).Concludes (s.ensureToolchain fs).files canPublish (ready.plan t) uri
      source (s.generation uri + 1) (ends.headD .usual) (ends.tail.headD .usual)
      (s.lintDocument fs canPublish none uri source language ends) := by
  intro ready
  obtain ⟨es, more, quiet, searched⟩ := lintDocument_basePass linted linter
      canPublish uri source ends
  obtain ⟨-, generations, -⟩ := ensureToolchain_kept s fs
  have current : (ready.advance uri).isCurrent uri (s.generation uri + 1) = true := by
    simp [isCurrent, advance, generation, ready, generations]
  rw [searched]
  exact concludes_basePass _ current (by simp [quiet.1]) (by simp [quiet.2, ready]) (more + 1) ends

/-- A cycle changes nothing of a session but the quick fixes and the counters, beside what finding
the linter does. -/
theorem lintDocument_session (s : Session) (fs : FileSystem) (canPublish : Bool)
    (uri source : String) (language : Option String) (ends : List ProcessEnd) :
    let turn := s.lintDocument fs canPublish none uri source language ends
    ∃ registry generations,
      (turn.session = { s with registry, generations } ∧ turn.files = fs) ∨
      (turn.session = { (s.ensureToolchain fs).session with registry, generations } ∧
        turn.files = (s.ensureToolchain fs).files) := by
  intro turn
  cases linted : s.isLintable language with
  | false =>
    obtain ⟨es, -, skipped⟩ := lintDocument_skipped linted fs uri source ends
    refine ⟨s.registry, s.generations, .inl ?_⟩
    change turn = _ at skipped
    rw [skipped]
    exact ⟨rfl, rfl⟩
  | true =>
    rcases linter : (s.ensureToolchain fs).value with e | _ | t
    · obtain ⟨es, -, failed⟩ := lintDocument_refused linted linter uri source ends
      refine ⟨turn.session.registry, turn.session.generations, .inr ?_⟩
      change turn = _ at failed
      rw [failed]
      exact ⟨rfl, rfl⟩
    · obtain ⟨es, -, missed⟩ := lintDocument_noLinter linted linter uri source ends
      refine ⟨turn.session.registry, turn.session.generations, .inr ?_⟩
      change turn = _ at missed
      rw [missed]
      exact ⟨rfl, rfl⟩
    · have concludes := concludes_lintDocument linted linter canPublish uri source ends
      refine ⟨turn.session.registry, turn.session.generations, .inr ⟨?_, concludes.files⟩⟩
      have stored : turn.session = _ := concludes.session
      rw [stored]
      unfold storing
      split <;> rfl

/-- The processes that linting a document starts, by the end of the first one: none for a language
that is not linted, and none without a linter. -/
def processes (s : Session) (fs : FileSystem) (uri source : String) (language : Option String)
    (e : ProcessEnd) : List (List String × Option String) :=
  match (s.ensureToolchain fs).value with
  | .ok (some t) =>
    if s.isLintable language then
      (s.ensureToolchain fs).session.commandLines ((s.ensureToolchain fs).session.plan t) uri
        source e
    else []
  | _ => []

theorem commands_lintDocument (s : Session) (fs : FileSystem) (canPublish : Bool)
    (uri source : String) (language : Option String) (ends : List ProcessEnd) :
    commands (s.lintDocument fs canPublish none uri source language ends).effects =
      s.processes fs uri source language (ends.headD .usual) := by
  unfold processes
  cases linted : s.isLintable language with
  | false =>
    obtain ⟨es, quiet, skipped⟩ := lintDocument_skipped linted fs uri source ends
    rw [skipped, quiet.2]
    split <;> rfl
  | true =>
    rcases linter : (s.ensureToolchain fs).value with e | _ | t
    · obtain ⟨es, quiet, failed⟩ := lintDocument_refused linted linter uri source ends
      rw [failed]
      exact quiet.2
    · obtain ⟨es, quiet, missed⟩ := lintDocument_noLinter linted linter uri source ends
      rw [missed]
      exact quiet.2
    · exact (concludes_lintDocument linted linter canPublish uri source ends).commands

/-- A pass with a time to run gives what its process printed, unless one of the two things
happens that stop a run. -/
theorem passResult_eq_ok_iff {rules : Option String}
    (timed : (invocation plan rules).hasNoTime = false) {e : ProcessEnd} {vs : List Violation} :
    passResult plan rules e = .ok vs ↔
      e ≠ .refusedArgument ∧ (∀ digits, ¬e.Overlong digits) ∧ e.violations = vs := by
  unfold passResult
  obtain ⟨rfl, result⟩ | ⟨digits, overlong, result⟩ | ⟨result, returns⟩ :=
    (invocation plan rules).conclude_cases timed e
  · simp [result]
  · rw [result]
    simp only [reduceCtorEq, false_iff, not_and]
    exact fun _ short => absurd overlong (short digits)
  · have startable : e ≠ .refusedArgument := by
      rintro rfl
      cases result
    have short : ∀ digits, ¬e.Overlong digits := by
      intro digits overlong
      rw [Invocation.result_of_overlong timed overlong] at result
      cases result
    simp [result, startable, short]

/-- A cycle gathers the violations that its passes print, if no pass is stopped and the rule file
can be told. -/
theorem gathered_eq_ok_iff (timed : ∀ rules, (invocation plan rules).hasNoTime = false)
    {vs : List Violation} :
    s.gathered plan uri e₁ e₂ = .ok vs ↔ ∃ rules, s.rulesPath uri = .ok rules ∧
      (e₁ ≠ .refusedArgument ∧ ∀ digits, ¬e₁.Overlong digits) ∧
      (rules ≠ none → e₂ ≠ .refusedArgument ∧ ∀ digits, ¬e₂.Overlong digits) ∧
      harvested rules e₁ e₂ = vs := by
  unfold gathered
  simp only [bind_eq_ok, passResult_eq_ok_iff (timed _)]
  constructor
  · rintro ⟨base, ⟨startable, short, rfl⟩, rules, readable, h⟩
    refine ⟨rules, readable, ⟨startable, short⟩, ?_⟩
    cases rules with
    | none =>
      cases h
      simp [harvested]
    | some path =>
      obtain ⟨custom, result, h⟩ := bind_eq_ok.mp h
      obtain ⟨startable₂, short₂, rfl⟩ := (passResult_eq_ok_iff (timed (some path))).mp result
      cases h
      exact ⟨fun _ => ⟨startable₂, short₂⟩, rfl⟩
  · rintro ⟨rules, readable, ⟨startable, short⟩, custom, rfl⟩
    refine ⟨_, ⟨startable, short, rfl⟩, rules, readable, ?_⟩
    cases rules with
    | none => simp [harvested, pure, Except.pure]
    | some path =>
      obtain ⟨startable₂, short₂⟩ := custom (by simp)
      exact bind_eq_ok.mpr ⟨_, (passResult_eq_ok_iff (timed (some path))).mpr
        ⟨startable₂, short₂, rfl⟩, rfl⟩

/-- A cycle publishes exactly if its rule file can be told, no pass is stopped, and no pass
prints a coordinate beyond the editor protocol. -/
theorem upshot_isOk_iff (timed : ∀ rules, (invocation plan rules).hasNoTime = false) :
    (∃ findings, s.upshot plan uri e₁ e₂ = .ok findings) ↔
      ∃ rules, s.rulesPath uri = .ok rules ∧ e₁.Ordinary ∧ (rules ≠ none → e₂.Ordinary) := by
  have publishes : (∃ findings, s.upshot plan uri e₁ e₂ = .ok findings) ↔
      ∃ vs, s.gathered plan uri e₁ e₂ = .ok vs ∧ ∀ v ∈ vs, v.Fits := by
    simp only [upshot, bind_eq_ok, mapError_eq_ok_iff]
    rw [exists_comm]
    simp only [exists_and_left, Violation.findings_isOk_iff]
  simp only [publishes, gathered_eq_ok_iff timed]
  constructor
  · rintro ⟨vs, ⟨rules, readable, ⟨startable, short⟩, custom, rfl⟩, fits⟩
    obtain ⟨first, second⟩ := List.forall_mem_append.mp fits
    refine ⟨rules, readable, ⟨⟨short, first⟩, startable⟩, fun configured => ?_⟩
    obtain ⟨path, rfl⟩ := Option.ne_none_iff_exists'.mp configured
    obtain ⟨startable₂, short₂⟩ := custom configured
    exact ⟨⟨short₂, second⟩, startable₂⟩
  · rintro ⟨rules, readable, base, custom⟩
    refine ⟨_, ⟨rules, readable, ⟨base.startable, base.short⟩, fun configured =>
      ⟨(custom configured).startable, (custom configured).short⟩, rfl⟩, ?_⟩
    refine List.forall_mem_append.mpr ⟨base.fits, ?_⟩
    cases rules with
    | none => simp
    | some path => exact (custom (by simp)).fits

/-- What a cycle publishes is the translation of what its passes print. -/
theorem findings_of_upshot (timed : ∀ rules, (invocation plan rules).hasNoTime = false)
    {findings : List Finding} (h : s.upshot plan uri e₁ e₂ = .ok findings) :
    ∃ rules, s.rulesPath uri = .ok rules ∧
      Violation.findings uri (harvested rules e₁ e₂) = .ok findings := by
  obtain ⟨vs, gathers, translated⟩ := bind_eq_ok.mp h
  obtain ⟨rules, readable, -, -, rfl⟩ := (gathered_eq_ok_iff timed).mp gathers
  exact ⟨rules, readable, mapError_eq_ok_iff.mp translated⟩

/-- Nothing keeps a cycle from its passes: no process is refused for a NUL, and the rule file can be
told if one is configured. -/
structure Unhindered (s : Session) (plan : PassPlan) (uri source : String) : Prop where
  first : Command.holdsNul (command plan none source).1 plan.cwd = false
  told : s.config.ruleConfigPath = "" ∨ Uri.hostFault? (Uri.parts uri).authority = none
  second : ∀ path, s.rulesPath uri = .ok (some path) →
    Command.holdsNul (command plan (some path) source).1 plan.cwd = false

/-- A cycle ends with the translation of violations: it is what is published and stored, under the
next generation of the document and with the number of passes. -/
def Delivers (s : Session) (uri : String) (vs : List Violation) (passes : Nat) (canPublish : Bool)
    (turn : Turn Played) : Prop :=
  ∃ findings, Violation.findings uri vs = .ok findings ∧
    publications turn.effects = [(uri, Finding.diagnostics findings)] ∧
    turn.session = { s.advance uri with
      registry := s.registry.publish uri (Finding.actions findings) } ∧
    turn.value = .ended (handedOver canPublish ⟨uri, s.generation uri + 1, findings, passes⟩)

/-- Within the bounds of the reader and of the protocol, a cycle publishes exactly if nothing keeps
it from its passes. -/
theorem upshot_isOk_iff_unhindered (timed : ∀ rules, (invocation plan rules).hasNoTime = false)
    (base : e₁.Bounded) (custom : s.config.ruleConfigPath ≠ "" → e₂.Bounded)
    (host₁ : e₁ = .refusedArgument ↔
      Command.holdsNul (command plan none source).1 plan.cwd = true)
    (host₂ : ∀ path, s.rulesPath uri = .ok (some path) →
      (e₂ = .refusedArgument ↔
        Command.holdsNul (command plan (some path) source).1 plan.cwd = true)) :
    (∃ findings, s.upshot plan uri e₁ e₂ = .ok findings) ↔ s.Unhindered plan uri source := by
  rw [upshot_isOk_iff timed]
  constructor
  · rintro ⟨rules, readable, first, second⟩
    refine ⟨by simpa [host₁] using first.startable, exists_rulesPath_iff.mp ⟨rules, readable⟩,
      fun path told => ?_⟩
    obtain rfl : some path = rules := by
      rw [told] at readable
      cases readable
      rfl
    simpa [host₂ path told] using (second (by simp)).startable
  · rintro ⟨first, told, second⟩
    obtain ⟨rules, readable⟩ := exists_rulesPath_iff.mpr told
    refine ⟨rules, readable, ⟨base, by simp [host₁, first]⟩, fun configured => ?_⟩
    obtain ⟨path, rfl⟩ := Option.ne_none_iff_exists'.mp configured
    have filled : s.config.ruleConfigPath ≠ "" := by
      have some := isSome_of_rulesPath readable
      simpa using some
    exact ⟨custom filled, by simp [host₂ path readable, second path readable]⟩

variable (source) in
/-- What a cycle publishes is the translation of what its two processes give, the second one only
if a rule file is configured. -/
theorem findings_of_gives (timed : ∀ rules, (invocation plan rules).hasNoTime = false)
    {vs₁ vs₂ : List Violation} (gives₁ : e₁.Gives vs₁) (gives₂ : e₂.Gives vs₂)
    {findings : List Finding} (h : s.upshot plan uri e₁ e₂ = .ok findings) :
    Violation.findings uri (vs₁ ++ if s.config.ruleConfigPath = "" then [] else vs₂) =
        .ok findings ∧
      (s.commandLines plan uri source e₁).length =
        if s.config.ruleConfigPath = "" then 1 else 2 := by
  obtain ⟨vs, gathers, translated⟩ := bind_eq_ok.mp h
  obtain ⟨rules, readable, ⟨startable, short⟩, -, rfl⟩ := (gathered_eq_ok_iff timed).mp gathers
  have ends : passResult plan none e₁ = .ok e₁.violations :=
    (passResult_eq_ok_iff (timed none)).mpr ⟨startable, short, rfl⟩
  obtain rfl := ProcessEnd.violations_eq_iff.mpr gives₁
  obtain rfl := ProcessEnd.violations_eq_iff.mpr gives₂
  have configured := isSome_of_rulesPath readable
  refine ⟨?_, ?_⟩
  · rw [← mapError_eq_ok_iff.mp translated, harvested]
    cases rules <;> simp_all
  · simp only [commandLines, secondPass, ends, readable]
    cases rules <;> simp_all

/-- The commands of a cycle that publishes: both passes are started if there is a rule file. -/
theorem commandLines_of_upshot (timed : ∀ rules, (invocation plan rules).hasNoTime = false)
    {findings : List Finding} (h : s.upshot plan uri e₁ e₂ = .ok findings) :
    ∃ rules, s.rulesPath uri = .ok rules ∧
      s.commandLines plan uri source e₁ = command plan none source ::
        rules.toList.map fun path => command plan (some path) source := by
  obtain ⟨vs, gathers, -⟩ := bind_eq_ok.mp h
  obtain ⟨rules, readable, ⟨startable, short⟩, -, -⟩ := (gathered_eq_ok_iff timed).mp gathers
  have ends : passResult plan none e₁ = .ok e₁.violations :=
    (passResult_eq_ok_iff (timed none)).mpr ⟨startable, short, rfl⟩
  exact ⟨rules, readable, by rw [commandLines, secondPass, ends, readable]⟩

section
variable {fs : FileSystem} {canPublish : Bool} {generation : Nat} {turn : Turn Played}

theorem published_of_concludes
    (h : s.Concludes fs canPublish plan uri source generation e₁ e₂ turn)
    {findings : List Finding} (published : s.upshot plan uri e₁ e₂ = .ok findings) :
    publications turn.effects = [(uri, Finding.diagnostics findings)] ∧
      turn.session = { s with registry := s.registry.publish uri (Finding.actions findings) } ∧
      turn.value = .ended (handedOver canPublish
        ⟨uri, generation, findings, (s.commandLines plan uri source e₁).length⟩) := by
  obtain ⟨session, -, -, shown, value⟩ := h
  rw [published] at session shown value
  exact ⟨shown, session, value⟩

theorem failed_of_concludes
    (h : s.Concludes fs canPublish plan uri source generation e₁ e₂ turn) {f : Failure}
    (fails : s.upshot plan uri e₁ e₂ = .error f) :
    publications turn.effects = [] ∧ turn.value = .ended (.error f) := by
  obtain ⟨-, -, -, shown, value⟩ := h
  rw [fails] at shown value
  exact ⟨shown, value⟩

end

/-- Finding the linter leaves the rule files alone. -/
theorem rulesPath_ready (s : Session) (fs : FileSystem) (uri : String) :
    ((s.ensureToolchain fs).session.advance uri).rulesPath uri = s.rulesPath uri := by
  obtain ⟨-, -, roots, rulePath, -⟩ := ensureToolchain_kept s fs
  simp [rulesPath, roots, rulePath]

theorem unhindered_ready_iff {s : Session} (fs : FileSystem) :
    ((s.ensureToolchain fs).session.advance uri).Unhindered plan uri source ↔
      s.Unhindered plan uri source := by
  obtain ⟨-, -, -, rulePath, -⟩ := ensureToolchain_kept s fs
  have sameRules := rulesPath_ready s fs uri
  have configured : ((s.ensureToolchain fs).session.advance uri).config.ruleConfigPath =
      s.config.ruleConfigPath := rulePath
  constructor <;> rintro ⟨first, told, second⟩
  · exact ⟨first, configured ▸ told, sameRules ▸ second⟩
  · exact ⟨first, configured.symm ▸ told, sameRules.symm ▸ second⟩

/-- A cycle that nothing interrupts, of a document that is linted, publishes just the translation
of what its processes give, a pass that failed giving nothing and no second one being there
without a rule file, exactly if nothing keeps it from its passes. Else it publishes nothing and
ends with a failure. -/
theorem publishes_both_passes {s : Session} (timed : s.Timed) {language : Option String}
    (linted : s.isLintable language = true) {fs : FileSystem} {t : Toolchain}
    (linter : (s.ensureToolchain fs).value = .ok (some t)) {uri source : String}
    {e₁ e₂ : ProcessEnd} (base : e₁.Bounded) (custom : s.config.ruleConfigPath ≠ "" → e₂.Bounded)
    {vs₁ vs₂ : List Violation} (gives₁ : e₁.Gives vs₁) (gives₂ : e₂.Gives vs₂)
    (host₁ : e₁ = .refusedArgument ↔ Command.holdsNul
      (command ((s.ensureToolchain fs).session.plan t) none source).1
      ((s.ensureToolchain fs).session.plan t).cwd = true)
    (host₂ : ∀ path, s.rulesPath uri = .ok (some path) →
      (e₂ = .refusedArgument ↔ Command.holdsNul
        (command ((s.ensureToolchain fs).session.plan t) (some path) source).1
        ((s.ensureToolchain fs).session.plan t).cwd = true))
    (canPublish : Bool) :
    let ready := (s.ensureToolchain fs).session
    let plan := ready.plan t
    let turn := s.lintDocument fs canPublish none uri source language [e₁, e₂]
    let vs := vs₁ ++ if s.config.ruleConfigPath = "" then [] else vs₂
    let passes := if s.config.ruleConfigPath = "" then 1 else 2
    (ready.Delivers uri vs passes canPublish turn ↔ s.Unhindered plan uri source) ∧
      (s.Unhindered plan uri source → ∃ rules, s.rulesPath uri = .ok rules ∧
        commands turn.effects = command plan none source ::
          rules.toList.map fun path => command plan (some path) source) ∧
      (¬ s.Unhindered plan uri source →
        publications turn.effects = [] ∧ ∃ f, turn.value = .ended (.error f)) := by
  intro ready plan turn vs passes
  obtain ⟨-, generations, -, rulePath, timeout⟩ := ensureToolchain_kept s fs
  have sameRules : (ready.advance uri).rulesPath uri = s.rulesPath uri := rulesPath_ready s fs uri
  have configured : (ready.advance uri).config.ruleConfigPath = s.config.ruleConfigPath := rulePath
  have timed' : ∀ rules, (invocation plan rules).hasNoTime = false :=
    (timed.of_timeout timeout).hasNoTime t
  have published : (∃ findings, (ready.advance uri).upshot plan uri e₁ e₂ = .ok findings) ↔
      s.Unhindered plan uri source := by
    rw [← unhindered_ready_iff fs]
    exact upshot_isOk_iff_unhindered timed' base (configured.symm ▸ custom) host₁
      (sameRules.symm ▸ host₂)
  have concludes : (ready.advance uri).Concludes _ canPublish plan uri source
      (s.generation uri + 1) e₁ e₂ turn :=
    concludes_lintDocument linted linter canPublish uri source [e₁, e₂]
  have silent (hindered : ¬ s.Unhindered plan uri source) :
      publications turn.effects = [] ∧ ∃ f, turn.value = .ended (.error f) := by
    cases upshot : (ready.advance uri).upshot plan uri e₁ e₂ with
    | ok findings => exact absurd (published.mp ⟨findings, upshot⟩) hindered
    | error f =>
      obtain ⟨shown, value⟩ := failed_of_concludes concludes upshot
      exact ⟨shown, f, value⟩
  refine ⟨⟨fun delivers => ?_, fun free => ?_⟩, fun free => ?_, silent⟩
  · by_contra hindered
    obtain ⟨findings, -, shown, -⟩ := delivers
    rw [(silent hindered).1] at shown
    cases shown
  · obtain ⟨findings, upshot⟩ := published.mpr free
    obtain ⟨translated, counted⟩ := findings_of_gives source timed' gives₁ gives₂ upshot
    rw [configured] at translated counted
    obtain ⟨shown, session, value⟩ := published_of_concludes concludes upshot
    have generation : ready.generation uri = s.generation uri := by
      simp [Session.generation, ready, generations]
    refine ⟨findings, translated, shown, session, ?_⟩
    rw [value, counted, generation]
  · obtain ⟨findings, upshot⟩ := published.mpr free
    obtain ⟨rules, readable, lines⟩ := commandLines_of_upshot timed' upshot
    exact ⟨rules, sameRules ▸ readable, concludes.commands.trans lines⟩

/-- The first pass ends without an exit status; the second one counts all the same. -/
theorem publishes_after_failed_base :
    let s := Session.fresh ⟨"lute", "/r.luau", none, none, ["luau"], none⟩ [] false ⟨1, []⟩ "lute"
    let files : FileSystem := .empty
    let failed : ProcessEnd := .exited none [91, 93] [33]
    let turn := s.lintDocument files true none "u" "x" (some "luau") [failed, emptyBatch]
    s.Timed ∧ s.isLintable (some "luau") = true ∧
      (∃ t, (s.ensureToolchain files).value = .ok (some t)) ∧ failed.Bounded ∧ failed.Gives [] ∧
      emptyBatch.Bounded ∧ emptyBatch.Gives [] ∧
      publications turn.effects = [("u", [])] ∧
      turn.value = .ended (.ok (some ⟨"u", 1, [], 2⟩)) := by
  intro s files failed turn
  have timed : s.Timed := by intro limit h; cases h
  have linted : s.isLintable (some "luau") = true := by decide
  have linter : (s.ensureToolchain files).value = .ok (some ⟨"lute", none, .explicit⟩) := by cbv
  have bounded : failed.Bounded := by
    refine ⟨?_, by simp [failed, ProcessEnd.violations]⟩
    rintro digits ⟨stdout, stderr, he, -⟩
    simp [failed] at he
  have gives : failed.Gives [] := ProcessEnd.violations_eq_iff.mp rfl
  have gives' : emptyBatch.Gives [] := ProcessEnd.violations_eq_iff.mp (by cbv)
  have told : s.rulesPath "u" = .ok (some "/r.luau") := by cbv
  have clean : Command.holdsNul
      (command ((s.ensureToolchain files).session.plan ⟨"lute", none, .explicit⟩) none "x").1
      none = false := by cbv
  have clean' : Command.holdsNul
      (command ((s.ensureToolchain files).session.plan ⟨"lute", none, .explicit⟩)
        (some "/r.luau") "x").1 none = false := by cbv
  have second : ∀ path, s.rulesPath "u" = .ok (some path) → path = "/r.luau" := by
    intro path h
    rw [told] at h
    cases h
    rfl
  have free : s.Unhindered
      ((s.ensureToolchain files).session.plan ⟨"lute", none, .explicit⟩) "u" "x" := by
    refine ⟨clean, .inr (by cbv), fun path h => ?_⟩
    rw [second path h]
    exact clean'
  obtain ⟨delivers, -, -⟩ := publishes_both_passes timed linted linter bounded
    (fun _ => ordinary_emptyBatch.toBounded) gives gives' (by simp [failed]; exact clean)
    (fun path h => by rw [second path h]; simp [emptyBatch]; exact clean') true
  obtain ⟨findings, translated, published, -, ended⟩ := delivers.mpr free
  cases translated
  exact ⟨timed, linted, ⟨_, linter⟩, bounded, gives, ordinary_emptyBatch.toBounded, gives',
    published, ended⟩

/-- With a rule file configured, a document whose address cannot be read gets nothing, though
both passes give an empty batch. -/
theorem unreadable_address_publishes_nothing :
    let s := Session.fresh ⟨"/opt/lute", "/opt/rules.luau", none, none, ["luau"], none⟩ [] false
      ⟨1, []⟩ "lute"
    let files : FileSystem := .empty
    let turn := s.lintDocument files true none "file://[x" "x" (some "luau")
      [emptyBatch, emptyBatch]
    s.isLintable (some "luau") = true ∧ (∃ t, (s.ensureToolchain files).value = .ok (some t)) ∧
      emptyBatch.Bounded ∧ emptyBatch.Gives [] ∧ Violation.findings "file://[x" [] = .ok [] ∧
      publications turn.effects = [] ∧ turn.value = .ended (.error (.host .loneBracket)) := by
  intro s files turn
  have linted : s.isLintable (some "luau") = true := by decide
  have linter : (s.ensureToolchain files).value = .ok (some ⟨"/opt/lute", none, .explicit⟩) := by
    cbv
  have concludes : (((s.ensureToolchain files).session).advance "file://[x").Concludes _ true _
      "file://[x" "x" (s.generation "file://[x" + 1) emptyBatch emptyBatch turn :=
    concludes_lintDocument linted linter true "file://[x" "x" [emptyBatch, emptyBatch]
  have upshot : (((s.ensureToolchain files).session).advance "file://[x").upshot
      ((s.ensureToolchain files).session.plan ⟨"/opt/lute", none, .explicit⟩) "file://[x"
      emptyBatch emptyBatch = .error (.host .loneBracket) := by cbv
  exact ⟨linted, ⟨_, linter⟩, ordinary_emptyBatch.toBounded,
    ProcessEnd.violations_eq_iff.mp (by cbv), rfl, failed_of_concludes concludes upshot⟩

end Session
end LintBridge
